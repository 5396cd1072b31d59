import Gallery.Proofs.Upload.Codec
import Gallery.Proofs.Upload.Guard

namespace Gallery.ImageCodec

-- A text with line breaks put into it, anywhere and as many as one likes.
inductive Folded : List Char → List Char → Prop where
  | nil : Folded [] []
  | kept (c : Char) {folded plain : List Char} (h : Folded folded plain) :
      Folded (c :: folded) (c :: plain)
  | lineBreak {c : Char} (hc : c = '\r' ∨ c = '\n') {folded plain : List Char}
      (h : Folded folded plain) : Folded (c :: folded) plain

def withoutBreaks (cs : List Char) : List Char := cs.filter fun c => c != '\r' && c != '\n'

theorem Folded.withoutBreaks_eq {folded plain : List Char} (h : Folded folded plain) :
    withoutBreaks folded = withoutBreaks plain := by
  induction h with
  | nil => rfl
  | kept c h ih =>
      unfold withoutBreaks at *
      rw [List.filter_cons, List.filter_cons, ih]
  | lineBreak hc h ih =>
      unfold withoutBreaks at *
      rw [List.filter_cons_of_neg, ih]
      rcases hc with rfl | rfl <;> decide

theorem folded_withoutBreaks (cs : List Char) : Folded cs (withoutBreaks cs) := by
  induction cs with
  | nil => exact .nil
  | cons c cs ih =>
      unfold withoutBreaks at *
      rw [List.filter_cons]
      split
      · exact .kept c ih
      · rename_i hbreak
        refine .lineBreak ?_ ih
        simpa [or_iff_not_imp_left] using hbreak

-- A text without line breaks is what is left of all its foldings.
theorem folded_iff {folded plain : List Char} (hplain : withoutBreaks plain = plain) :
    Folded folded plain ↔ withoutBreaks folded = plain := by
  constructor
  · intro h
    rw [h.withoutBreaks_eq, hplain]
  · rintro rfl
    exact folded_withoutBreaks folded

theorem Folded.mem_cases {folded plain : List Char} (h : Folded folded plain) {c : Char}
    (hc : c ∈ folded) : c ∈ plain ∨ c = '\r' ∨ c = '\n' := by
  induction h with
  | nil => exact Or.inl hc
  | kept d h ih =>
      rcases List.mem_cons.mp hc with rfl | hc
      · exact Or.inl List.mem_cons_self
      · exact (ih hc).imp_left (List.mem_cons_of_mem d)
  | lineBreak hd h ih =>
      rcases List.mem_cons.mp hc with rfl | hc
      · exact Or.inr hd
      · exact ih hc

theorem withoutBreaks_encodedText (bytes : List UInt8) :
    withoutBreaks (Text.Base64.encodedText bytes) = Text.Base64.encodedText bytes :=
  List.filter_eq_self.mpr (Text.Base64.forall_mem_encodedText (by decide) (by decide) _)

theorem folded_base64Text_iff (text : String) (bytes : ByteArray) :
    Folded text.toList (base64Text bytes).toList ↔
      withoutBreaks text.toList = (base64Text bytes).toList := by
  refine folded_iff ?_
  rw [base64Text, String.toList_ofList, withoutBreaks_encodedText]

-- Trimming takes nothing but line breaks from a text that has no other blanks.
theorem withoutBreaks_dropWhile {cs : List Char}
    (h : ∀ c ∈ cs, Text.isBlank c = true → c = '\r' ∨ c = '\n') :
    withoutBreaks (cs.dropWhile Text.isBlank) = withoutBreaks cs := by
  induction cs with
  | nil => rfl
  | cons c cs ih =>
      rw [List.forall_mem_cons] at h
      by_cases hblank : Text.isBlank c = true
      · rw [List.dropWhile_cons_of_pos hblank, ih h.2]
        unfold withoutBreaks
        rw [List.filter_cons_of_neg]
        rcases h.1 hblank with rfl | rfl <;> decide
      · rw [List.dropWhile_cons_of_neg hblank]

theorem withoutBreaks_trimChars {cs : List Char}
    (h : ∀ c ∈ cs, Text.isBlank c = true → c = '\r' ∨ c = '\n') :
    withoutBreaks (Text.trimChars cs) = withoutBreaks cs := by
  have hreverse (ds : List Char) : withoutBreaks ds.reverse = (withoutBreaks ds).reverse :=
    List.filter_reverse
  have hfront := withoutBreaks_dropWhile h
  have hleft : ∀ c ∈ (cs.dropWhile Text.isBlank).reverse,
      Text.isBlank c = true → c = '\r' ∨ c = '\n' := by
    intro c hc
    exact h c (List.dropWhile_subset _ (List.mem_reverse.mp hc))
  rw [Text.trimChars, hreverse, withoutBreaks_dropWhile hleft, hreverse, List.reverse_reverse,
    hfront]

-- What is seen of a folded text before it is decoded: the line breaks at its ends are gone.
theorem encodedPart_of_folded {text : String} {bytes : ByteArray}
    (h : Folded text.toList (base64Text bytes).toList) :
    encodedPart text = .ok (Text.trim text).toList ∧
      withoutBreaks (Text.trim text).toList = Text.Base64.encodedText bytes.data.toList := by
  rw [base64Text, String.toList_ofList] at h
  rw [Text.trim, String.toList_ofList]
  have hplain : ∀ c ∈ Text.Base64.encodedText bytes.data.toList, Text.isBlank c = false ∧ c ≠ ':' :=
    Text.Base64.forall_mem_encodedText (by decide) (by decide) _
  have hblank : ∀ c ∈ text.toList, Text.isBlank c = true → c = '\r' ∨ c = '\n' := by
    intro c hc hblank
    rcases h.mem_cases hc with hsymbol | hbreak
    · rw [(hplain c hsymbol).1] at hblank
      cases hblank
    · exact hbreak
  have hfolded : withoutBreaks (Text.trimChars text.toList) =
      Text.Base64.encodedText bytes.data.toList := by
    rw [withoutBreaks_trimChars hblank, h.withoutBreaks_eq, withoutBreaks_encodedText]
  have hcolon : ':' ∉ Text.trimChars text.toList := by
    intro hmem
    have hleft : ':' ∈ withoutBreaks (Text.trimChars text.toList) :=
      List.mem_filter.mpr ⟨hmem, by decide⟩
    rw [hfolded] at hleft
    exact (hplain ':' hleft).2 rfl
  exact ⟨encodedPart_of_front .nothing hcolon rfl, hfolded⟩

theorem decodeBase64_of_folded (codec : ImageCodec)
    (hlimit : (codec.maxImageBytes + 2) / 3 * 4 + 4 < Word.limit) {text : String}
    {bytes : ByteArray} (h : Folded text.toList (base64Text bytes).toList) :
    codec.decodeBase64 text =
      if UnderGuard codec.maxImageBytes (textLength (Text.trim text)) then .ok bytes
      else .error (.tooLarge (textLength (Text.trim text) / 4 * 3) codec.maxImageBytes) := by
  obtain ⟨hpart, hfolded⟩ := encodedPart_of_folded h
  rw [codec.decodeBase64_of_encodedPart hlimit hpart hfolded, String.ofList_toList]

-- Trimming leaves all symbols, and no more than there was.
theorem length_trim_of_folded {text : String} {bytes : ByteArray}
    (h : Folded text.toList (base64Text bytes).toList) :
    (base64Text bytes).length ≤ (Text.trim text).utf8ByteSize ∧
      (Text.trim text).utf8ByteSize ≤ text.length := by
  obtain ⟨_, hfolded⟩ := encodedPart_of_folded h
  have hsymbols : ∀ c ∈ Text.Base64.encodedText bytes.data.toList, c.val ≤ 127 :=
    Text.Base64.forall_mem_encodedText (by decide) (by decide) _
  have htrimmed : (Text.trim text).toList.length ≤ text.toList.length := by
    rw [Text.trim, String.toList_ofList, Text.trimChars, List.length_reverse]
    calc _ ≤ (text.toList.dropWhile Text.isBlank).reverse.length :=
          (List.dropWhile_sublist _).length_le
      _ = (text.toList.dropWhile Text.isBlank).length := List.length_reverse
      _ ≤ text.toList.length := (List.dropWhile_sublist _).length_le
  have hascii : ∀ c ∈ (Text.trim text).toList, c.val ≤ 127 := by
    intro c hc
    by_cases hbreak : c = '\r' ∨ c = '\n'
    · rcases hbreak with rfl | rfl <;> decide
    · have hleft : c ∈ withoutBreaks (Text.trim text).toList :=
        List.mem_filter.mpr ⟨hc, by simpa using hbreak⟩
      rw [hfolded] at hleft
      exact hsymbols c hleft
  rw [Text.utf8ByteSize_of_ascii _ hascii, base64Text, String.length_ofList, ← hfolded]
  exact ⟨List.length_filter_le _ _, htrimmed⟩

-- Where lines break no more often than twice for every 76 symbols, the text is within the bound.
theorem underGuard_of_folded {maxImageBytes : Nat} {text : String} {bytes : ByteArray}
    (hfits : bytes.size ≤ maxImageBytes) (h : Folded text.toList (base64Text bytes).toList)
    (hfew : text.length ≤ (base64Text bytes).length + (base64Text bytes).length / 76 * 2) :
    UnderGuard maxImageBytes (textLength (Text.trim text)) := by
  obtain ⟨hleft, htrimmed⟩ := length_trim_of_folded h
  have hplain := length_base64Text bytes
  rw [UnderGuard, textLength, Word.saturate]
  omega

-- Folding the base64 text of an image that is within the limit changes the verdict on it exactly if
-- its folder and its name are accepted and the text is longer, without the line breaks at its ends,
-- than the bound before decoding lets pass; then it is refused as too large, which it never is
-- unfolded. Where there are no more than two characters of line breaks for every 76 symbols this
-- does not happen.
theorem folding_keeps_verdict_iff (codec : ImageCodec)
    (hlimit : (codec.maxImageBytes + 2) / 3 * 4 + 4 < Word.limit) {bytes : ByteArray}
    (hfits : bytes.size ≤ codec.maxImageBytes) {text : String}
    (hfolded : Folded text.toList (base64Text bytes).toList) (folder name : Option String) :
    let folded := codec.decode ⟨folder, name, .base64 text⟩
    let plain := codec.decode ⟨folder, name, .base64 (base64Text bytes)⟩
    let length := textLength (Text.trim text)
    (folded = plain ↔
      (∀ place, ¬TakesFolder codec.defaultFolder folder place) ∨
        (∀ found, ¬TakesName name found) ∨ UnderGuard codec.maxImageBytes length) ∧
    (folded ≠ plain → folded = .error (.tooLarge (length / 4 * 3) codec.maxImageBytes)) ∧
    (∀ size limit, plain ≠ .error (.tooLarge size limit)) ∧
    (text.length ≤ (base64Text bytes).length + (base64Text bytes).length / 76 * 2 →
      folded = plain) := by
  intro folded plain length
  have hplain : codec.content (.base64 (base64Text bytes)) = .ok (bytes, none) := by
    rw [content, codec.decodeBase64_of_carries_of_le hlimit (carries_base64Text bytes) hfits]
    rfl
  have hunder (h : UnderGuard codec.maxImageBytes length) : folded = plain := by
    refine codec.decode_congr ?_ folder name
    rw [hplain, content, codec.decodeBase64_of_folded hlimit hfolded, if_pos h]
    rfl
  have hover (h : ¬UnderGuard codec.maxImageBytes length) {place found}
      (hplace : TakesFolder codec.defaultFolder folder place) (hfound : TakesName name found) :
      folded = .error (.tooLarge (length / 4 * 3) codec.maxImageBytes) := by
    refine codec.decode_of_content_error hplace hfound ?_
    rw [content, codec.decodeBase64_of_folded hlimit hfolded, if_neg h]
    rfl
  have hnever (size limit : Nat) : plain ≠ .error (.tooLarge size limit) :=
    codec.decode_ne_tooLarge hplain hfits size limit
  have hiff : folded = plain ↔
      (∀ place, ¬TakesFolder codec.defaultFolder folder place) ∨
        (∀ found, ¬TakesName name found) ∨ UnderGuard codec.maxImageBytes length := by
    constructor
    · intro hsame
      by_contra hnot
      simp only [not_or, not_forall, not_not] at hnot
      obtain ⟨⟨place, hplace⟩, ⟨found, hfound⟩, hlong⟩ := hnot
      exact hnever _ _ (hsame.symm.trans (hover hlong hplace hfound))
    · rintro (hnone | hnone | h)
      · exact codec.decode_of_misplaced (Or.inl hnone) _ _
      · exact codec.decode_of_misplaced (Or.inr hnone) _ _
      · exact hunder h
  refine ⟨hiff, fun hdiffer => ?_, hnever, fun hfew => ?_⟩
  · rw [ne_eq, hiff] at hdiffer
    simp only [not_or, not_forall, not_not] at hdiffer
    obtain ⟨⟨place, hplace⟩, ⟨found, hfound⟩, hlong⟩ := hdiffer
    exact hover hlong hplace hfound
  · exact hunder (underGuard_of_folded hfits hfolded hfew)

-- An image of one pixel.
def pixelGif : ByteArray :=
  ⟨#[71, 73, 70, 56, 57, 97, 1, 0, 1, 0, 128, 0, 0, 0, 0, 0, 0, 0, 0, 33, 249, 4, 8, 0, 0, 0, 0, 44,
    0, 0, 0, 0, 1, 0, 1, 0, 128, 0, 0, 90, 0, 0, 0, 2, 2, 68, 1, 0, 59]⟩

theorem folding_keeps_verdict_on_pixel :
    let text := "R0lGODlhAQABAIAAAAAAAAAAACH5BAgAAAAA\r\nLAAAAAABAAEAgAAAWgAAAAICRAEAOw==\r\n"
    ((ofLimit 49).maxImageBytes + 2) / 3 * 4 + 4 < Word.limit ∧
      pixelGif.size ≤ (ofLimit 49).maxImageBytes ∧
      Folded text.toList (base64Text pixelGif).toList ∧
      (ofLimit 49).decode ⟨none, none, .base64 text⟩ =
        (ofLimit 49).decode ⟨none, none, .base64 (base64Text pixelGif)⟩ := by
  intro text
  have hlimit : ((ofLimit 49).maxImageBytes + 2) / 3 * 4 + 4 < Word.limit := by decide
  have hfits : pixelGif.size ≤ (ofLimit 49).maxImageBytes := by decide
  have hfolded : Folded text.toList (base64Text pixelGif).toList :=
    (folded_base64Text_iff text pixelGif).mpr (by decide +kernel)
  have hunder : UnderGuard (ofLimit 49).maxImageBytes (textLength (Text.trim text)) := by
    decide +kernel
  have hverdict := (ofLimit 49).folding_keeps_verdict_iff hlimit hfits hfolded none none
  exact ⟨hlimit, hfits, hfolded, hverdict.1.mpr (Or.inr (Or.inr hunder))⟩

-- The same text in lines of ten symbols.
def narrowPixelText : String :=
  "R0lGODlhAQ\r\nABAIAAAAAA\r\nAAAAACH5BA\r\ngAAAAALAAA\r\nAAABAAEAgA\r\nAAWgAAAAIC\r\nRAEAOw=="

-- It is refused, although the limit is the size of the image.
theorem pixel_refused_in_narrow_lines :
    ((ofLimit 49).maxImageBytes + 2) / 3 * 4 + 4 < Word.limit ∧
      pixelGif.size ≤ (ofLimit 49).maxImageBytes ∧
      Folded narrowPixelText.toList (base64Text pixelGif).toList ∧
      (ofLimit 49).decode ⟨none, none, .base64 narrowPixelText⟩ = .error (.tooLarge 60 49) ∧
      ∃ decoded, (ofLimit 49).decode ⟨none, none, .base64 (base64Text pixelGif)⟩ = .ok decoded ∧
        decoded.image.bytes = pixelGif := by
  have hlimit : ((ofLimit 49).maxImageBytes + 2) / 3 * 4 + 4 < Word.limit := by decide
  have hfolded : Folded narrowPixelText.toList (base64Text pixelGif).toList :=
    (folded_base64Text_iff _ pixelGif).mpr (by decide +kernel)
  have hlength : textLength (Text.trim narrowPixelText) = 80 := by decide +kernel
  have hrefused : (ofLimit 49).content (.base64 narrowPixelText) = .error (.tooLarge 60 49) := by
    rw [content, decodeBase64_of_folded _ hlimit hfolded, hlength]
    rfl
  have hread : (ofLimit 49).content (.base64 (base64Text pixelGif)) = .ok (pixelGif, none) := by
    rw [content, decodeBase64_of_carries_of_le _ hlimit (carries_base64Text pixelGif) (by decide)]
    rfl
  have haccepted := ((ofLimit 49).decode_eq_ok_iff ⟨none, none, .base64 (base64Text pixelGif)⟩
    ⟨ImageAddress.sample.folder, none, pixelGif, .gif, some ⟨1, 1⟩⟩).mpr
    ⟨rfl, rfl, pixelGif, none, hread, rfl⟩
  exact ⟨hlimit, by decide, hfolded, decode_of_content_error _ .missing .missing hrefused, _,
    haccepted, rfl⟩

end Gallery.ImageCodec
