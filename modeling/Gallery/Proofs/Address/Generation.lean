import Gallery.Image.Sniff
import Gallery.Proofs.Address
import Gallery.Proofs.Address.Resolution
import Gallery.Proofs.Time.Instant
import Gallery.Proofs.Uuid

-- Names for uploads that come without one. What they are made of is all of the grammar of
-- segments, with one full stop at most, so only a name that is too long can be refused; and the
-- extensions of images are short.

namespace Gallery

-- A letter, a digit or a sign, and no full stop.
def IsWordChar (c : Char) : Prop := c.isAlphanum = true ∨ c = '+' ∨ c = '-'

theorem IsWordChar.ne_dot {c : Char} (h : IsWordChar c) : c ≠ '.' := by
  rintro rfl
  rcases h with h | h | h
  · exact absurd h (by decide)
  · cases h
  · cases h

theorem IsWordChar.permitted {c : Char} (h : IsWordChar c) :
    c.isAlphanum = true ∨ c ∈ ['.', '_', '@', '+', '-'] := by
  rcases h with h | rfl | rfl
  · exact Or.inl h
  · exact Or.inr (by decide)
  · exact Or.inr (by decide)

theorem IsTimeChar.isWordChar {c : Char} (h : IsTimeChar c) : IsWordChar c := by
  rcases h with h | h
  · exact Or.inl (by simp [Char.isAlphanum, h])
  · exact Or.inr h

theorem isWordChar_of_mem_hexDigits : ∀ c ∈ Uuid.hexDigits, IsWordChar c := by
  have hall : Uuid.hexDigits.all Char.isAlphanum = true := by decide
  exact fun c hc => Or.inl (List.all_eq_true.mp hall c hc)

-- A word, or two of them with a full stop between them.
inductive Dotted : List Char → Prop where
  | word {cs : List Char} (hfilled : cs ≠ []) (h : ∀ c ∈ cs, IsWordChar c) : Dotted cs
  | words {cs ds : List Char} (hfilled : cs ≠ []) (h : ∀ c ∈ cs, IsWordChar c)
      (h' : ∀ c ∈ ds, IsWordChar c) : Dotted (cs ++ '.' :: ds)

theorem count_dot_of_words {cs : List Char} (h : ∀ c ∈ cs, IsWordChar c) : cs.count '.' = 0 :=
  List.count_eq_zero.mpr fun hdot => (h '.' hdot).ne_dot rfl

namespace Dotted

variable {cs : List Char}

theorem permitted (h : Dotted cs) :
    ∀ c ∈ cs, c.isAlphanum = true ∨ c ∈ ['.', '_', '@', '+', '-'] := by
  cases h with
  | word _ h => exact fun c hc => (h c hc).permitted
  | words _ h h' =>
      rw [List.forall_mem_append, List.forall_mem_cons]
      exact ⟨fun c hc => (h c hc).permitted, Or.inr (by decide), fun c hc => (h' c hc).permitted⟩

theorem count_dot_le (h : Dotted cs) : cs.count '.' ≤ 1 := by
  cases h with
  | word _ h => rw [count_dot_of_words h]; exact Nat.zero_le 1
  | words _ h h' =>
      rw [List.count_append, List.count_cons, count_dot_of_words h, count_dot_of_words h']
      decide

theorem head?_ne_dot (h : Dotted cs) : cs.head? ≠ some '.' := by
  -- the first word is not empty, so it has the first character
  have hword : ∀ ds : List Char, (∀ c ∈ ds, IsWordChar c) → ds.head? ≠ some '.' := fun ds h hdot =>
    (h '.' (List.mem_of_head? hdot)).ne_dot rfl
  cases h with
  | word _ h => exact hword _ h
  | words hfilled h _ =>
      rw [List.head?_append_of_ne_nil _ hfilled]
      exact hword _ h

theorem ne_nil (h : Dotted cs) : cs ≠ [] := by
  cases h with
  | word hfilled _ => exact hfilled
  | words hfilled _ _ => simp

end Dotted

-- Nothing but its length can keep such a text from being a segment.
theorem Segment.grammatical_iff_of_dotted {text : String} (h : Dotted text.toList) :
    Grammatical text ↔ text.utf8ByteSize ≤ 255 := by
  refine ⟨Grammatical.short, fun hshort => ⟨?_, hshort, h.permitted, h.head?_ne_dot, ?_⟩⟩
  · rintro rfl
    exact h.ne_nil rfl
  · intro hdots
    have hcount := hdots.sublist.count_le '.'
    have hle := h.count_dot_le
    have htwo : ['.', '.'].count '.' = 2 := rfl
    omega

namespace ImageName

-- What a generated name begins with: the digits of the time and the first 16 of the random ones.
inductive Stem (now : Instant) (random : Uuid) : List Char → Prop where
  | joined {time digits : List Char} (htime : now.Stamped time) (hleading : digits <+: random.digits)
      (hlength : digits.length = 16) (hdigits : ∀ c ∈ digits, c ∈ Uuid.hexDigits) :
      Stem now random (time ++ '-' :: digits)

-- A full stop follows only if some letter or digit of the extension is left.
inductive MadeOf (now : Instant) (random : Uuid) (extension : String) : List Char → Prop where
  | bare {stem : List Char} (hstem : Stem now random stem)
      (hnone : ∀ c ∈ extension.toList, c.isAlphanum = false) : MadeOf now random extension stem
  | extended {stem letters : List Char} (hstem : Stem now random stem)
      (hletters : letters = (extension.toList.filter Char.isAlphanum).map Char.toLower)
      (hfilled : letters ≠ []) : MadeOf now random extension (stem ++ '.' :: letters)

variable {now : Instant} {random : Uuid} {extension : String} {cs : List Char}

theorem Stem.isWordChar (h : Stem now random cs) : ∀ c ∈ cs, IsWordChar c := by
  cases h with
  | joined htime _ _ hdigits =>
      obtain ⟨p, _, hwritten⟩ := htime
      rw [List.forall_mem_append, List.forall_mem_cons]
      exact ⟨fun c hc => (hwritten.isTimeChar c hc).isWordChar, Or.inr (Or.inr rfl),
        fun c hc => isWordChar_of_mem_hexDigits c (hdigits c hc)⟩

theorem Stem.length_bounds (h : Stem now random cs) : 0 < cs.length ∧ cs.length ≤ 37 := by
  cases h with
  | joined htime _ hlength _ =>
      obtain ⟨p, _, hwritten⟩ := htime
      have htime := hwritten.length_bounds
      simp only [List.length_append, List.length_cons, hlength]
      omega

-- Putting letters in lower case leaves letters and digits.
theorem isAlphanum_toLower {c : Char} (h : c.isAlphanum = true) : c.toLower.isAlphanum = true := by
  have hletters : ∀ n ∈ List.range' 65 26, (Char.ofNat n).toLower.isAlphanum = true := by decide
  by_cases hupper : c.val ≥ 'A'.val ∧ c.val ≤ 'Z'.val
  · have hbounds : 65 ≤ c.toNat ∧ c.toNat ≤ 90 := by
      simpa [UInt32.le_iff_toNat_le] using hupper
    rw [← Char.ofNat_toNat c]
    exact hletters c.toNat (List.mem_range'_1.mpr ⟨hbounds.1, by omega⟩)
  · have hsame : c.toLower = c := dif_neg hupper
    rwa [hsame]

theorem isWordChar_of_mem_cleanExtension : ∀ c ∈ cleanExtension extension, IsWordChar c := by
  intro c hc
  obtain ⟨d, hd, rfl⟩ := List.mem_map.mp hc
  exact Or.inl (isAlphanum_toLower (List.mem_filter.mp hd).2)

theorem MadeOf.dotted (h : MadeOf now random extension cs) : Dotted cs := by
  cases h with
  | bare hstem _ => exact .word (List.length_pos_iff.mp hstem.length_bounds.1) hstem.isWordChar
  | extended hstem hletters _ =>
      refine .words (List.length_pos_iff.mp hstem.length_bounds.1) hstem.isWordChar ?_
      rw [hletters]
      exact isWordChar_of_mem_cleanExtension

theorem MadeOf.length_le (h : MadeOf now random extension cs) :
    cs.length ≤ 38 + extension.toList.length := by
  cases h with
  | bare hstem _ =>
      have := hstem.length_bounds
      omega
  | extended hstem hletters _ =>
      have hstem := hstem.length_bounds
      have hletters := congrArg List.length hletters
      have hfilter := List.length_filter_le Char.isAlphanum extension.toList
      rw [List.length_map] at hletters
      rw [List.length_append, List.length_cons]
      omega

variable (now random extension)

theorem madeOf_generated : MadeOf now random extension (generated now random extension).toList := by
  have hstem : Stem now random (now.stamp ++ '-' :: random.digits.take randomDigits) := by
    refine .joined now.stamped_stamp (List.take_prefix _ _) ?_ ?_
    · rw [randomDigits, random.take_digits, Uuid.length_wordDigits]
    · rw [randomDigits, random.take_digits]
      exact Uuid.mem_hexDigits_of_mem_wordDigits random.high
  unfold generated
  cases hletters : cleanExtension extension with
  | nil =>
      rw [String.toList_ofList]
      refine .bare hstem fun c hc => ?_
      have hnone := List.filter_eq_nil_iff.mp (List.map_eq_nil_iff.mp hletters) c hc
      simpa using hnone
  | cons first rest =>
      rw [String.toList_ofList]
      exact .extended hstem hletters.symm (List.cons_ne_nil _ _)

theorem parse_generated_iff :
    (∃ name, Segment.parse .name (generated now random extension) = .ok name) ↔
      (generated now random extension).utf8ByteSize ≤ 255 := by
  rw [← Segment.grammatical_iff_of_dotted (madeOf_generated now random extension).dotted,
    ← Segment.fault?_eq_none_iff_grammatical]
  constructor
  · rintro ⟨name, hname⟩
    rw [← Segment.text_of_parse hname]
    exact name.accepted
  · intro hnone
    exact ⟨⟨_, hnone⟩, Segment.parse_eq_ok_iff.mpr rfl⟩

-- All characters are one byte each.
theorem utf8ByteSize_generated_le :
    (generated now random extension).utf8ByteSize ≤ 38 + extension.toList.length := by
  have hmade := madeOf_generated now random extension
  rw [Text.utf8ByteSize_of_ascii _ fun c hc => Segment.allows_val_le
    ((Segment.allows_iff c).mpr (hmade.dotted.permitted c hc))]
  exact hmade.length_le

end ImageName

theorem ImageFormat.length_extension_le (format : ImageFormat) :
    format.extension.toList.length ≤ 4 := by
  cases format <;> decide

namespace ImageAddress

variable (owner : Owner) (folder : Folder) (now : Instant) (random : Uuid) (extension : String)

-- With an extension that is not too long there is always a name to be had.
theorem exists_forUpload_of_short (h : extension.toList.length ≤ 217) :
    ∃ a, forUpload owner folder none extension now random = .ok a ∧ a.owner = owner ∧
      a.folder = folder ∧ a.name.text = ImageName.generated now random extension := by
  have hsize := ImageName.utf8ByteSize_generated_le now random extension
  obtain ⟨name, hname⟩ := (ImageName.parse_generated_iff now random extension).mpr (by omega)
  refine ⟨⟨owner, folder, name⟩, ?_, rfl, rfl, Segment.text_of_parse hname⟩
  simp only [forUpload, hname]

end ImageAddress

namespace ImageName

-- A generated name is the digits of the time and 16 random ones, and what is left of the
-- extension; and it is a name for an image unless it is too long. So an upload without a name gets
-- one, in its own folder, at any time and whatever kind of image it is.
theorem generated_names_fit :
    (∀ now random extension, MadeOf now random extension (generated now random extension).toList) ∧
    (∀ now random extension,
      (∃ name, Segment.parse .name (generated now random extension) = .ok name) ↔
        (generated now random extension).utf8ByteSize ≤ 255) ∧
    ∀ bytes sniffed, sniff bytes = some sniffed → ∀ owner folder now random,
      ∃ a, ImageAddress.forUpload owner folder none sniffed.extension now random = .ok a ∧
        a.owner = owner ∧ a.folder = folder ∧
        a.name.text = generated now random sniffed.extension := by
  refine ⟨madeOf_generated, parse_generated_iff, fun bytes sniffed _ owner folder now random => ?_⟩
  have hshort := sniffed.format.length_extension_le
  exact ImageAddress.exists_forUpload_of_short owner folder now random sniffed.extension
    (hshort.trans (by decide))

-- Here in a leap second of the year 10000.
theorem generated_name_fits_in_leap_second :
    sniff ⟨#[71, 73, 70, 56, 57, 97]⟩ = some ⟨.gif, none⟩ ∧
      ∃ a, ImageAddress.forUpload ImageAddress.sample.owner ImageAddress.sample.folder none "gif"
          ⟨253402300859, 1500000000, rfl⟩ ⟨0xab, 0⟩ = .ok a ∧
        a.key = "u1/avatars/+100000101000060500-00000000000000ab.gif" := by
  have hsniff : sniff ⟨#[71, 73, 70, 56, 57, 97]⟩ = some ⟨.gif, none⟩ := by decide +kernel
  obtain ⟨a, hresult, howner, hfolder, hname⟩ := generated_names_fit.2.2 _ _ hsniff
    ImageAddress.sample.owner ImageAddress.sample.folder ⟨253402300859, 1500000000, rfl⟩ ⟨0xab, 0⟩
  refine ⟨hsniff, a, hresult, ?_⟩
  rw [ImageAddress.key, howner, hfolder, hname]
  decide +kernel

end ImageName

end Gallery
