import Gallery.Proofs.Text.Base64
import Gallery.Proofs.Text.Blank
import Gallery.Upload.Codec
import Mathlib.Data.List.Infix

namespace Gallery.ImageCodec

-- A mark whose first character does not come again in it cannot begin in one text and end in the
-- next: where a text without the mark is followed by it, the mark begins only there.
theorem not_prefix_of_not_infix {first : Char} {others front rest : List Char}
    (hfirst : first ∉ others) (hne : front ≠ []) (h : ¬first :: others <:+: front) :
    ¬first :: others <+: front ++ (first :: others ++ rest) := by
  intro hmark
  rcases List.prefix_or_prefix_of_prefix hmark (List.prefix_append front _) with hinside | hends
  · exact h hinside.isInfix
  · obtain ⟨ending, hending⟩ := hends
    obtain ⟨c, front, rfl⟩ := List.exists_cons_of_ne_nil hne
    rw [← hending, List.prefix_append_right_inj] at hmark
    rw [List.cons_append, List.cons.injEq] at hending
    obtain ⟨rfl, hothers⟩ := hending
    cases ending with
    | nil =>
        rw [List.append_nil] at hothers
        exact h (hothers ▸ List.infix_rfl)
    | cons d ending =>
        -- what is left of the mark begins with its first character
        simp only [List.cons_append, List.cons_prefix_cons] at hmark
        exact hfirst (by simp [← hothers, hmark.1])

-- What stands between the media type and the content of a `data:` address.
def contentMark : List Char := ";base64,".toList

theorem afterMark_append {front : List Char} (h : ¬contentMark <:+: front) (rest : List Char) :
    afterMark contentMark (front ++ (contentMark ++ rest)) = some rest := by
  induction front with
  | nil => rfl
  | cons c front ih =>
      have hnot : ¬contentMark <+: (c :: front) ++ (contentMark ++ rest) :=
        not_prefix_of_not_infix (by decide) (by simp) h
      have hlater : ¬contentMark <:+: front := fun hin => h (List.infix_cons hin)
      rw [List.cons_append, afterMark, if_neg]
      · exact ih hlater
      · rwa [List.isPrefixOf_iff_prefix]

theorem afterMark_eq_some_iff (cs rest : List Char) :
    afterMark contentMark cs = some rest ↔
      ∃ front, ¬contentMark <:+: front ∧ cs = front ++ (contentMark ++ rest) := by
  constructor
  · intro h
    induction cs with
    | nil => cases h
    | cons c cs ih =>
        rw [afterMark] at h
        split at h
        · rename_i hmark
          obtain ⟨after, hafter⟩ := List.isPrefixOf_iff_prefix.mp hmark
          rw [← hafter, List.drop_left] at h
          cases h
          exact ⟨[], by decide, hafter.symm⟩
        · rename_i hmark
          obtain ⟨front, hfront, hcs⟩ := ih h
          refine ⟨c :: front, ?_, by rw [hcs, List.cons_append]⟩
          rw [List.infix_cons_iff, not_or]
          refine ⟨fun hbegins => hmark ?_, hfront⟩
          rw [List.isPrefixOf_iff_prefix, hcs, ← List.cons_append]
          exact hbegins.trans (List.prefix_append _ _)
  · rintro ⟨front, hfront, rfl⟩
    exact afterMark_append hfront rest

-- The base64 text that a text brings: what follows the first place where content begins in a
-- `data:` address, or all of a text that is no such address.
inductive Brings : List Char → List Char → Prop where
  | plain {cs : List Char} (h : ¬"data:".toList <+: cs) : Brings cs cs
  | address {mediaType : List Char} (h : ¬contentMark <:+: mediaType) (encoded : List Char) :
      Brings ("data:".toList ++ (mediaType ++ (contentMark ++ encoded))) encoded

theorem encodedPart_eq_ok_iff (text : String) (encoded : List Char) :
    encodedPart text = .ok encoded ↔ Brings (Text.trimChars text.toList) encoded := by
  unfold encodedPart
  generalize Text.trimChars text.toList = cs
  constructor
  · intro h
    split at h
    · rename_i rest
      split at h
      · rename_i found hfound
        cases h
        obtain ⟨mediaType, hmark, rfl⟩ := (afterMark_eq_some_iff rest encoded).mp hfound
        exact .address hmark encoded
      · cases h
    · rename_i hdata
      cases h
      refine .plain ?_
      rintro ⟨rest, rfl⟩
      exact hdata rest rfl
  · intro h
    cases h with
    | plain hdata =>
        split
        · rename_i rest
          exact absurd (List.prefix_append "data:".toList rest) hdata
        · rfl
    | @address mediaType hmark =>
        have hfound : afterMark ";base64,".toList (mediaType ++ (contentMark ++ encoded)) =
            some encoded := afterMark_append hmark encoded
        have hdata : "data:".toList = ['d', 'a', 't', 'a', ':'] := rfl
        simp only [hdata, List.cons_append, List.nil_append, hfound]

theorem eq_notBase64Address_of_encodedPart {text : String} {e : EncodingError}
    (h : encodedPart text = .error e) : e = .notBase64Address := by
  unfold encodedPart at h
  split at h
  · split at h
    · cases h
    · cases h
      rfl
  · cases h

theorem encodedPart_eq_error_iff (text : String) (e : EncodingError) :
    encodedPart text = .error e ↔
      (∀ encoded, ¬Brings (Text.trimChars text.toList) encoded) ∧ e = .notBase64Address := by
  constructor
  · intro h
    refine ⟨fun encoded hbrings => ?_, eq_notBase64Address_of_encodedPart h⟩
    rw [(encodedPart_eq_ok_iff text encoded).mpr hbrings] at h
    cases h
  · rintro ⟨hnone, rfl⟩
    cases hpart : encodedPart text with
    | ok encoded => exact absurd ((encodedPart_eq_ok_iff text encoded).mp hpart) (hnone encoded)
    | error e => rw [eq_notBase64Address_of_encodedPart hpart]

-- What may stand before base64 text: nothing, or the front of a `data:` address. The media type is
-- any text, as long as the content does not begin in it.
inductive Front : List Char → Prop where
  | nothing : Front []
  | address {mediaType : List Char} (h : ¬contentMark <:+: mediaType) :
      Front ("data:".toList ++ (mediaType ++ contentMark))

theorem Front.head?_filled {front : List Char} (h : Front front) :
    ∀ c ∈ front.head?, Text.isBlank c = false := by
  cases h with
  | nothing => simp
  | address h =>
      rintro c ⟨⟩
      decide

theorem Front.getLast?_filled {front : List Char} (h : Front front) :
    ∀ c ∈ front.getLast?, Text.isBlank c = false := by
  cases h with
  | nothing => simp
  | address h =>
      rw [← List.append_assoc, List.getLast?_append]
      rintro c ⟨⟩
      decide

-- The text is the standard base64 form of some bytes, in a `data:` address or not, with any blanks
-- around it.
def Carries (text : String) (bytes : ByteArray) : Prop :=
  ∃ before front after, (∀ c ∈ before, Text.isBlank c = true) ∧
    (∀ c ∈ after, Text.isBlank c = true) ∧ Front front ∧
    text.toList = before ++ (front ++ Text.Base64.encodedText bytes.data.toList) ++ after

theorem trimChars_of_carries {front encoded before after : List Char}
    (hbefore : ∀ c ∈ before, Text.isBlank c = true) (hafter : ∀ c ∈ after, Text.isBlank c = true)
    (hfront : Front front) (hfilled : ∀ c ∈ encoded, Text.isBlank c = false) :
    Text.trimChars (before ++ (front ++ encoded) ++ after) = front ++ encoded := by
  refine Text.trimChars_of_blanks hbefore hafter ?_ ?_
  · intro c hc
    rw [List.head?_append, Option.mem_def, Option.or_eq_some_iff] at hc
    rcases hc with hc | ⟨_, hc⟩
    · exact hfront.head?_filled c hc
    · exact hfilled c (List.mem_of_mem_head? hc)
  · intro c hc
    rw [List.getLast?_append, Option.mem_def, Option.or_eq_some_iff] at hc
    rcases hc with hc | ⟨_, hc⟩
    · exact hfilled c (List.mem_of_mem_getLast? hc)
    · exact hfront.getLast?_filled c hc

-- What is left when the front is taken off.
theorem encodedPart_of_front {text : String} {front encoded : List Char} (hfront : Front front)
    (hcolon : ':' ∉ encoded) (htrim : Text.trimChars text.toList = front ++ encoded) :
    encodedPart text = .ok encoded := by
  unfold encodedPart
  rw [htrim]
  cases hfront with
  | nothing =>
      split
      · rename_i rest hdata
        exact absurd (show ':' ∈ encoded by rw [← List.nil_append encoded, hdata]; simp) hcolon
      · rfl
  | @address mediaType h =>
      have hdata : "data:".toList = ['d', 'a', 't', 'a', ':'] := rfl
      have hmark : afterMark ";base64,".toList (mediaType ++ (contentMark ++ encoded)) =
          some encoded := afterMark_append h encoded
      simp only [hdata, List.append_assoc, List.cons_append, List.nil_append, hmark]

theorem encodedPart_of_carries {text : String} {bytes : ByteArray} (h : Carries text bytes) :
    encodedPart text = .ok (Text.Base64.encodedText bytes.data.toList) := by
  obtain ⟨before, front, after, hbefore, hafter, hfront, htext⟩ := h
  have hplain : ∀ c ∈ Text.Base64.encodedText bytes.data.toList, Text.isBlank c = false ∧ c ≠ ':' :=
    Text.Base64.forall_mem_encodedText (by decide) (by decide) _
  refine encodedPart_of_front hfront (fun hcolon => (hplain ':' hcolon).2 rfl) ?_
  rw [htext]
  exact trimChars_of_carries hbefore hafter hfront fun c hc => (hplain c hc).1

-- The standard base64 text of some bytes, which is nothing but what carries them.
def base64Text (bytes : ByteArray) : String :=
  String.ofList (Text.Base64.encodedText bytes.data.toList)

theorem carries_base64Text (bytes : ByteArray) : Carries (base64Text bytes) bytes :=
  ⟨[], [], [], by simp, by simp, .nothing, by simp [base64Text]⟩

theorem utf8ByteSize_base64Text (bytes : ByteArray) :
    (base64Text bytes).utf8ByteSize = (bytes.size + 2) / 3 * 4 := by
  rw [base64Text, ← Text.length_utf8, Text.utf8_ofList, Text.Base64.utf8_encodedText,
    Text.Base64.length_encode, Array.length_toList, ByteArray.size_data]

theorem length_base64Text (bytes : ByteArray) :
    (base64Text bytes).length = (bytes.size + 2) / 3 * 4 := by
  rw [base64Text, String.length_ofList, Text.Base64.encodedText, List.length_map,
    Text.Base64.length_encode, Array.length_toList, ByteArray.size_data]

end Gallery.ImageCodec
