import Gallery.Json.Value
import Gallery.Proofs.Json.Reader
import Gallery.Proofs.Text
import Mathlib.Tactic.IntervalCases

namespace Gallery.Json

-- A byte that stands for itself in a string.
def IsPlain (b : UInt8) : Prop := b ≠ 34 ∧ b ≠ 92 ∧ 32 ≤ b

-- The characters that need no escape are written in such bytes.
theorem isPlain_of_mem_utf8 {c : Char} (hquote : c ≠ '"') (hescape : c ≠ '\\')
    (hprintable : 32 ≤ c.toNat) : ∀ b ∈ String.utf8EncodeChar c, IsPlain b := by
  have hchar : ∀ b ∈ String.utf8EncodeChar c, b.toNat < 128 → c.toNat = b.toNat :=
    fun b hb hsmall => Text.val_toNat_of_mem_utf8EncodeChar hsmall hb
  intro b hb
  refine ⟨?_, ?_, ?_⟩
  · rintro rfl
    exact hquote (Char.toNat_inj.mp (hchar _ hb (by decide)))
  · rintro rfl
    exact hescape (Char.toNat_inj.mp (hchar _ hb (by decide)))
  · rw [UInt8.le_iff_toNat_le]
    by_cases hsmall : b.toNat < 128
    · rw [← hchar b hb hsmall]
      exact hprintable
    · have h32 : (32 : UInt8).toNat = 32 := rfl
      omega

-- The bytes that a character is written in.
def written (c : Char) : List UInt8 := (escaped c).flatMap String.utf8EncodeChar

namespace Reader

-- Plain bytes are read one by one.
theorem stringFrom_plain {plain : List UInt8} (h : ∀ b ∈ plain, IsPlain b) (offset : Nat)
    (done rest : List UInt8) (fuel : Nat) :
    stringFrom offset done (plain ++ rest) (fuel + plain.length) =
      stringFrom (offset + plain.length) (plain.reverse ++ done) rest fuel := by
  induction plain generalizing offset done with
  | nil => rfl
  | cons b more ih =>
      obtain ⟨hquote, hescape, hprintable⟩ := h b (by simp)
      have hcontrol : ¬b < 32 := UInt8.not_lt.mpr hprintable
      rw [List.cons_append, List.length_cons, ← Nat.add_assoc, stringFrom, if_neg hquote,
        if_neg hescape, if_neg hcontrol, ih fun d hd => h d (by simp [hd])]
      simp [Nat.add_assoc, Nat.add_comm 1]

theorem stringFrom_escape {bytes rest : List UInt8} {c : Char} {offset next : Nat}
    (h : escape (offset + 1) bytes = .ok (c, next, rest)) (done : List UInt8) (fuel : Nat) :
    stringFrom offset done (92 :: bytes) (fuel + 1) =
      stringFrom next ((String.utf8EncodeChar c).reverse ++ done) rest fuel := by
  rw [stringFrom, if_neg (by decide), if_pos rfl, h]
  rfl

-- How a control character is written that has no letter of its own.
theorem escape_number {n : Nat} (h : n < 32) (offset : Nat) (rest : List UInt8) :
    escape offset (['u', '0', '0', hexDigit (n / 16), hexDigit (n % 16)].flatMap
      String.utf8EncodeChar ++ rest) = .ok (Char.ofNat n, offset + 5, rest) := by
  interval_cases n <;> rfl

-- What a character is written in is read as this character, in as many steps as it has bytes, or
-- fewer.
theorem stringFrom_written (c : Char) (offset : Nat) (done rest : List UInt8) :
    ∃ steps next, 0 < steps ∧ steps ≤ (written c).length ∧ ∀ fuel,
      stringFrom offset done (written c ++ rest) (fuel + steps) =
        stringFrom next ((String.utf8EncodeChar c).reverse ++ done) rest fuel := by
  have hletter : ∀ letter d, written d = [92, letter] →
      escape (offset + 1) (letter :: rest) = .ok (d, offset + 2, rest) →
      ∃ steps next, 0 < steps ∧ steps ≤ (written d).length ∧ ∀ fuel,
        stringFrom offset done (written d ++ rest) (fuel + steps) =
          stringFrom next ((String.utf8EncodeChar d).reverse ++ done) rest fuel := by
    intro letter d hwritten hescape
    refine ⟨1, offset + 2, by decide, by simp [hwritten], fun fuel => ?_⟩
    rw [hwritten]
    exact stringFrom_escape hescape done fuel
  by_cases h : c ∈ ['"', '\\', '\n', '\r', '\t', '\x08', '\x0c']
  · simp only [List.mem_cons, List.not_mem_nil, or_false] at h
    rcases h with rfl | rfl | rfl | rfl | rfl | rfl | rfl <;> exact hletter _ _ rfl rfl
  · simp only [List.mem_cons, List.not_mem_nil, or_false, not_or] at h
    obtain ⟨hquote, hescape, hline, hreturn, htab, hback, hfeed⟩ := h
    by_cases hcontrol : c.toNat < 32
    · have hwritten : written c = 92 :: ['u', '0', '0', hexDigit (c.toNat / 16),
          hexDigit (c.toNat % 16)].flatMap String.utf8EncodeChar := by
        rw [written, escaped, if_neg hquote, if_neg hescape, if_neg hline, if_neg hreturn,
          if_neg htab, if_neg hback, if_neg hfeed, if_pos hcontrol]
        rfl
      refine ⟨1, offset + 6, by decide, by simp [hwritten], fun fuel => ?_⟩
      have hnumber := escape_number hcontrol (offset + 1) rest
      rw [Char.ofNat_toNat] at hnumber
      rw [hwritten]
      exact stringFrom_escape hnumber done fuel
    · have hwritten : written c = String.utf8EncodeChar c := by
        rw [written, escaped, if_neg hquote, if_neg hescape, if_neg hline, if_neg hreturn,
          if_neg htab, if_neg hback, if_neg hfeed, if_neg hcontrol, List.flatMap_singleton]
      refine ⟨(String.utf8EncodeChar c).length, offset + (String.utf8EncodeChar c).length, ?_,
        by rw [hwritten], fun fuel => ?_⟩
      · rw [String.length_utf8EncodeChar]
        exact c.utf8Size_pos
      · rw [hwritten]
        exact stringFrom_plain (isPlain_of_mem_utf8 hquote hescape (Nat.le_of_not_lt hcontrol))
          offset done rest fuel

-- By induction on the characters. Each takes no more steps than it has bytes, so the fuel lasts.
theorem stringFrom_flatMap_written (cs : List Char) (offset : Nat) (done rest : List UInt8)
    {fuel : Nat} (hfuel : (cs.flatMap written).length < fuel) :
    ∃ next, stringFrom offset done (cs.flatMap written ++ 34 :: rest) fuel =
      .ok (done.reverse ++ cs.flatMap String.utf8EncodeChar, next, rest) := by
  induction cs generalizing offset done fuel with
  | nil =>
      obtain ⟨more, rfl⟩ := Nat.exists_eq_add_of_lt hfuel
      exact ⟨offset + 1, by simp [stringFrom]⟩
  | cons c more ih =>
      obtain ⟨steps, next, _, hsteps, hread⟩ :=
        stringFrom_written c offset done (more.flatMap written ++ 34 :: rest)
      rw [List.flatMap_cons, List.length_append] at hfuel
      obtain ⟨left, rfl⟩ : ∃ left, fuel = left + steps := ⟨fuel - steps, by omega⟩
      obtain ⟨last, hrest⟩ := ih next ((String.utf8EncodeChar c).reverse ++ done)
        (by omega : _ < left)
      refine ⟨last, ?_⟩
      rw [List.flatMap_cons, List.append_assoc, hread, hrest]
      simp

theorem utf8_render_text (s : String) :
    Text.utf8 (Value.text s).render = 34 :: (s.toList.flatMap written ++ [34]) := by
  have hwritten : (fun c => (escaped c).flatMap String.utf8EncodeChar) = written := rfl
  rw [Value.render, Text.utf8_ofList, Value.characters, quotedText, List.cons_append,
    List.flatMap_cons, List.flatMap_append, List.flatMap_assoc, hwritten]
  rfl

theorem stringBody_written (s : String) :
    ∃ next, stringBody ⟨34 :: (s.toList.flatMap written ++ [34]), 0⟩ = .ok s ⟨[], next⟩ := by
  have hfuel : (s.toList.flatMap written).length <
      (s.toList.flatMap written ++ [34]).length + 1 := by
    rw [List.length_append]
    omega
  obtain ⟨next, hread⟩ := stringFrom_flatMap_written s.toList 1 [] [] hfuel
  have hutf8 : Text.ofUtf8? ⟨(s.toList.flatMap String.utf8EncodeChar).toArray⟩ = some s := by
    rw [Text.ofUtf8?_mk_eq_some_iff, ← Text.utf8_ofList, String.ofList_toList]
  refine ⟨next, ?_⟩
  unfold stringBody
  refine bind_eq_ok_iff.mpr ⟨_, _, rfl, ?_⟩
  simp only [List.drop_one, List.tail_cons, Nat.zero_add, hread, List.reverse_nil, List.nil_append]
  refine bind_eq_ok_iff.mpr ⟨_, _, rfl, ?_⟩
  simp only [hutf8]
  rfl

-- What is written of a text is read as this text, whatever its characters are.
theorem run_text_render (s : String) : run text (Text.utf8 (Value.text s).render) = .ok s := by
  obtain ⟨next, hbody⟩ := stringBody_written s
  have htext : text ⟨34 :: (s.toList.flatMap written ++ [34]), 0⟩ = .ok s ⟨[], next⟩ := by
    unfold text textAs
    refine bind_eq_ok_iff.mpr ⟨34, _, rfl, ?_⟩
    rw [if_pos rfl, located_eq_ok_iff]
    exact bind_eq_ok_iff.mpr ⟨s, _, hbody, rfl⟩
  rw [utf8_render_text]
  exact run_eq_ok_iff.mpr ⟨_, htext, rfl⟩

end Reader

end Gallery.Json
