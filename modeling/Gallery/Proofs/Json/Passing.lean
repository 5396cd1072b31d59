import Gallery.Proofs.Except
import Gallery.Proofs.Json.Numeral

-- Values that are passed over. Whatever is read as a text or as a number can be passed over, and
-- both end at the same place.

namespace Gallery.Json.Reader

variable {c c' : Cursor}

section Strings

theorem unit_eq_ok_cases {offset n : Nat} {bytes rest : List UInt8}
    (h : unit offset bytes = .ok (n, rest)) :
    rest.length + 4 = bytes.length ∧ ∀ offset', unit offset' bytes = .ok (n, rest) := by
  unfold unit at h
  split at h
  · split at h
    · rename_i hw hx hy hz
      cases h
      exact ⟨rfl, fun offset' => by simp only [unit, hw, hx, hy, hz]⟩
    · cases h
  · cases h

theorem escape_eq_ok_cases {offset next : Nat} {byte : UInt8} {bytes rest : List UInt8} {d : Char}
    (hnumber : byte ≠ 117) (h : escape offset (byte :: bytes) = .ok (d, next, rest)) :
    next = offset + 1 ∧ rest = bytes := by
  have hletter : Char.ofNat byte.toNat ≠ 'u' := by
    have hbytes : ∀ n < 256, Char.ofNat n = 'u' → n = 117 := by decide +kernel
    intro hu
    exact hnumber (UInt8.toNat_inj.mp (hbytes _ byte.toNat_lt hu))
  unfold escape at h
  dsimp only at h
  split at h
  all_goals first | exact absurd ‹_› hletter | cases h
  all_goals exact ⟨rfl, rfl⟩

-- One step of passing over a string, for an escape.
theorem passFrom_of_passEscape {offset next : Nat} {bytes rest : List UInt8}
    (h : passEscape (offset + 1) bytes = .ok (next, rest)) (fuel : Nat) :
    passFrom offset (92 :: bytes) (fuel + 1) = passFrom next rest fuel := by
  rw [passFrom, if_neg (by decide), if_pos rfl, h]
  rfl

theorem passEscape_of_unit {offset n : Nat} {bytes rest : List UInt8}
    (h : unit (offset + 1) bytes = .ok (n, rest)) :
    passEscape offset (117 :: bytes) = .ok (offset + 5, rest) := by
  rw [passEscape, h]
  rfl

-- An escape that is read is passed over in one step, or in two if it stands for a pair.
theorem passFrom_of_escape {offset next : Nat} {bytes rest : List UInt8} {d : Char}
    (h : escape (offset + 1) bytes = .ok (d, next, rest)) :
    ∃ steps, steps + rest.length ≤ bytes.length ∧ ∀ fuel,
      passFrom offset (92 :: bytes) (fuel + steps) = passFrom next rest fuel := by
  cases bytes with
  | nil => cases h
  | cons byte more =>
      by_cases hnumber : byte = 117
      · subst hnumber
        have hnumbered : numbered (offset + 2) more = .ok (d, next, rest) := h
        unfold numbered at hnumbered
        obtain ⟨⟨n, after⟩, hunit, hnumbered⟩ := Except.exists_of_bind_eq_ok hnumbered
        obtain ⟨hlength, hany⟩ := unit_eq_ok_cases hunit
        have hfirst := passFrom_of_passEscape (passEscape_of_unit (hany (offset + 2)))
        dsimp only at hnumbered
        split at hnumbered
        · cases hnumbered
        split at hnumbered
        · cases hnumbered
          exact ⟨1, by rw [List.length_cons]; omega, hfirst⟩
        split at hnumbered
        · cases hnumbered
        split at hnumbered
        · cases hnumbered
        rename_i backslash _ hbackslash
        split at hnumbered
        · cases hnumbered
        split at hnumbered
        · cases hnumbered
        rename_i letter pair hletter
        obtain ⟨⟨m, last⟩, hsecond, hnumbered⟩ := Except.exists_of_bind_eq_ok hnumbered
        obtain ⟨hpair, hany'⟩ := unit_eq_ok_cases hsecond
        dsimp only at hnumbered
        split at hnumbered
        · simp only [Except.ok.injEq, Prod.mk.injEq] at hnumbered
          obtain ⟨_, rfl, rfl⟩ := hnumbered
          obtain rfl := not_not.mp hbackslash
          obtain rfl := not_not.mp hletter
          refine ⟨2, by simp only [List.length_cons] at hlength ⊢; omega, fun fuel => ?_⟩
          rw [hfirst (fuel + 1), passFrom_of_passEscape (passEscape_of_unit (hany' _))]
        · cases hnumbered
      · obtain ⟨rfl, rfl⟩ := escape_eq_ok_cases hnumber h
        have hpass : passEscape (offset + 1) (byte :: rest) = .ok (offset + 2, rest) := by
          unfold passEscape
          split
          · rename_i hcons
            exact absurd (List.cons.inj hcons).1 hnumber
          · rw [h]
            rfl
        exact ⟨1, by rw [List.length_cons]; omega, passFrom_of_passEscape hpass⟩

-- By induction on the steps that reading takes.
theorem passFrom_of_stringFrom {offset fuel next : Nat} {done bytes found rest : List UInt8}
    (h : stringFrom offset done bytes fuel = .ok (found, next, rest)) {fuel' : Nat}
    (hfuel : bytes.length < fuel') : passFrom offset bytes fuel' = .ok (next, rest) := by
  induction fuel generalizing offset done bytes fuel' with
  | zero => cases h
  | succ fuel ih =>
      obtain ⟨more, rfl⟩ := Nat.exists_eq_add_of_lt (Nat.zero_lt_of_lt hfuel)
      cases bytes with
      | nil => cases h
      | cons byte bytes =>
          rw [List.length_cons] at hfuel
          rw [stringFrom] at h
          by_cases hquote : byte = 34
          · rw [if_pos hquote] at h
            cases h
            rw [passFrom, if_pos hquote]
          rw [if_neg hquote] at h
          by_cases hescape : byte = 92
          · subst hescape
            rw [if_pos rfl] at h
            obtain ⟨⟨d, past, after⟩, hread, h⟩ := Except.exists_of_bind_eq_ok h
            obtain ⟨steps, hsteps, hpass⟩ := passFrom_of_escape hread
            obtain ⟨left, hleft⟩ : ∃ left, 0 + more + 1 = left + steps :=
              ⟨0 + more + 1 - steps, by omega⟩
            rw [hleft, hpass]
            exact ih h (by omega)
          rw [if_neg hescape] at h
          by_cases hcontrol : byte < 32
          · rw [if_pos hcontrol] at h
            cases h
          · rw [if_neg hcontrol] at h
            rw [passFrom, if_neg hquote, if_neg hescape, if_neg hcontrol]
            exact ih h (by omega)

theorem passString_of_stringBody {s : String} (h : stringBody c = .ok s c') :
    passString c = .ok () c' := by
  unfold stringBody at h
  obtain ⟨here, start, hget, h⟩ := bind_eq_ok_iff.mp h
  cases hread : stringFrom (here.offset + 1) [] (here.rest.drop 1)
      ((here.rest.drop 1).length + 1) with
  | error fault =>
      rw [hread] at h
      cases h
  | ok read =>
      obtain ⟨found, next, rest⟩ := read
      rw [hread] at h
      obtain ⟨_, past, hset, h⟩ := bind_eq_ok_iff.mp h
      have hend : c' = past := by
        cases hutf8 : Text.ofUtf8? ⟨found.toArray⟩ with
        | none =>
            rw [hutf8] at h
            cases h
        | some s =>
            rw [hutf8] at h
            exact (pure_eq_ok_iff.mp h).2.symm
      unfold passString
      refine bind_eq_ok_iff.mpr ⟨here, start, hget, ?_⟩
      rw [passFrom_of_stringFrom hread (Nat.lt_succ_self _), hend]
      exact hset

end Strings

-- The first byte of a number.
def startsNumber (b : UInt8) : Bool := b = 45 || (48 ≤ b && b ≤ 57)

-- What is no array and no object is passed over by its first byte.
def passScalar : Reader Unit := do
  match ← peek with
  | none => failNext .expectedValue
  | some b =>
    if startsNumber b then passNumber
    else if b = 34 then passString
    else if b = 110 then word "null"
    else if b = 116 then word "true"
    else if b = 102 then word "false"
    else failNext .expectedValue

theorem passScalar_of_number {b : UInt8} {n : Number} (hhead : c.rest.head? = some b)
    (hb : startsNumber b = true) (h : number c = .ok n c') : passScalar c = .ok () c' := by
  refine bind_eq_ok_iff.mpr ⟨some b, c, peek_eq_ok_iff.mpr ⟨hhead.symm, rfl⟩, ?_⟩
  dsimp only
  rw [if_pos hb]
  exact passNumber_of_number h

theorem passScalar_of_string {s : String} (hhead : c.rest.head? = some 34)
    (h : stringBody c = .ok s c') : passScalar c = .ok () c' :=
  bind_eq_ok_iff.mpr ⟨some 34, c, peek_eq_ok_iff.mpr ⟨hhead.symm, rfl⟩,
    passString_of_stringBody h⟩

theorem passScalar_of_null (hhead : c.rest.head? = some 110) (h : word "null" c = .ok () c') :
    passScalar c = .ok () c' :=
  bind_eq_ok_iff.mpr ⟨some 110, c, peek_eq_ok_iff.mpr ⟨hhead.symm, rfl⟩, h⟩

-- Nothing that is passed over as a scalar begins like something with brackets, or like what stands
-- between members.
theorem head_of_passScalar (h : passScalar c = .ok () c') {b : UInt8}
    (hb : b ∈ [44, 91, 93, 123, 125]) : c.rest.head? ≠ some b := by
  intro hhead
  obtain ⟨first, here, hpeek, h⟩ := bind_eq_ok_iff.mp h
  rw [(peek_eq_ok_iff.mp hpeek).1, hhead] at h
  simp only [List.mem_cons, List.not_mem_nil, or_false] at hb
  rcases hb with rfl | rfl | rfl | rfl | rfl <;> cases h

-- Reading what is found is passing over it, unless a bracket is found.
theorem passScalar_of_found {f : Found} (h : found c = .ok f c') :
    passScalar c = .ok () c' ∨ c.rest.head? = some 91 ∨ c.rest.head? = some 123 := by
  unfold found at h
  obtain ⟨first, here, rest, hpeek, hrest, h⟩ := exists_of_bind_eq_ok h
  obtain ⟨hfirst, rfl⟩ := peek_eq_ok_iff.mp hpeek
  have hword : ∀ {r : Reader Unit} {f' : Found}, (r >>= fun _ => pure f') here = .ok f c' →
      r here = .ok () c' := by
    intro r f' hr
    obtain ⟨_, last, hread, hend⟩ := bind_eq_ok_iff.mp hr
    rwa [(pure_eq_ok_iff.mp hend).2] at hread
  split at hrest <;> subst hrest
  · exact Or.inl (bind_eq_ok_iff.mpr ⟨_, _, hpeek, hword h⟩)
  · exact Or.inl (bind_eq_ok_iff.mpr ⟨_, _, hpeek, hword h⟩)
  · exact Or.inl (bind_eq_ok_iff.mpr ⟨_, _, hpeek, hword h⟩)
  · obtain ⟨s, last, hread, hend⟩ := bind_eq_ok_iff.mp h
    obtain ⟨_, rfl⟩ := pure_eq_ok_iff.mp hend
    exact Or.inl (passScalar_of_string hfirst.symm hread)
  · exact Or.inr (Or.inl hfirst.symm)
  · exact Or.inr (Or.inr hfirst.symm)
  · split at h
    · rename_i hb
      obtain ⟨n, last, hread, hend⟩ := bind_eq_ok_iff.mp h
      obtain ⟨_, rfl⟩ := pure_eq_ok_iff.mp hend
      exact Or.inl (passScalar_of_number hfirst.symm hb hread)
    · cases h
  · cases h

theorem found_of_number {b : UInt8} {f : Found} (hhead : c.rest.head? = some b)
    (hb : startsNumber b = true) (h : found c = .ok f c') :
    ∃ n, f = .number n ∧ number c = .ok n c' := by
  unfold found at h
  obtain ⟨first, here, rest, hpeek, hrest, h⟩ := exists_of_bind_eq_ok h
  obtain ⟨hfirst, rfl⟩ := peek_eq_ok_iff.mp hpeek
  rw [hhead] at hfirst
  split at hrest <;> subst hrest <;> cases hfirst
  case h_7 =>
    split at h
    · obtain ⟨n, last, hnumber, hend⟩ := bind_eq_ok_iff.mp h
      obtain ⟨rfl, rfl⟩ := pure_eq_ok_iff.mp hend
      exact ⟨n, rfl, hnumber⟩
    · cases h
  all_goals cases hb

theorem found_of_quote {f : Found} (hhead : c.rest.head? = some 34) (h : found c = .ok f c') :
    ∃ s, f = .text s := by
  unfold found at h
  obtain ⟨first, here, rest, hpeek, hrest, h⟩ := exists_of_bind_eq_ok h
  obtain ⟨hfirst, rfl⟩ := peek_eq_ok_iff.mp hpeek
  rw [hhead] at hfirst
  subst hfirst hrest
  obtain ⟨s, last, _, hend⟩ := bind_eq_ok_iff.mp h
  exact ⟨s, (pure_eq_ok_iff.mp hend).1.symm⟩

theorem head_of_passName (h : passName c = .ok () c') : c.word.rest.head? = some 34 := by
  unfold passName at h
  obtain ⟨first, here, rest, hpeek, hrest, h⟩ := exists_of_bind_eq_ok h
  obtain ⟨hfirst, rfl⟩ := peekWord_eq_ok_iff.mp hpeek
  split at hrest
  · exact hfirst.symm
  · subst hrest
    cases h
  · subst hrest
    cases h

-- What there is to be passed over.
inductive Passes (c c' : Cursor) : Prop where
  | scalar (hpass : passScalar c.word = .ok () c')
  | array {fuel : Nat} (hhead : c.word.rest.head? = some 91)
      (hpass : passAfter false [.array] fuel (c.word.advance 1) = .ok () c')
  | object {fuel : Nat} (hhead : c.word.rest.head? = some 123)
      (hpass : passAfter false [.object] fuel (c.word.advance 1) = .ok () c')

theorem passAfter_nil {afterValue : Bool} {fuel : Nat} :
    passAfter afterValue [] fuel c = .ok () c' ↔ c = c' := by
  rw [passAfter, pure_eq_ok_iff]
  exact and_iff_right rfl

theorem passes_of_pass (h : pass c = .ok () c') : Passes c c' := by
  have hinside : passInside [] (2 * c.rest.length + 2) c = .ok () c' := h
  rw [passInside] at hinside
  obtain ⟨b, here, rest, hstart, hrest, hinside⟩ := exists_of_bind_eq_ok hinside
  obtain ⟨hhead, rfl⟩ := valueStart_eq_ok_iff.mp hstart
  have hpeek : peek c.word = .ok (some b) c.word := peek_eq_ok_iff.mpr ⟨hhead.symm, rfl⟩
  have hend : ∀ {r : Reader Unit} {fuel : Nat},
      (r >>= fun _ => passAfter true [] fuel) c.word = .ok () c' → r c.word = .ok () c' := by
    intro r fuel hr
    obtain ⟨_, last, hread, hlast⟩ := bind_eq_ok_iff.mp hr
    rwa [passAfter_nil.mp hlast] at hread
  have hskip : ∀ {enclosures : List Enclosure} {fuel : Nat},
      (skip 1 >>= fun _ => passAfter false enclosures fuel) c.word = .ok () c' →
        passAfter false enclosures fuel (c.word.advance 1) = .ok () c' := by
    intro enclosures fuel hr
    obtain ⟨_, last, hread, hlast⟩ := bind_eq_ok_iff.mp hr
    rwa [skip_eq_ok_iff.mp hread] at hlast
  split at hrest <;> subst hrest
  · exact .scalar (bind_eq_ok_iff.mpr ⟨_, _, hpeek, hend hinside⟩)
  · exact .scalar (bind_eq_ok_iff.mpr ⟨_, _, hpeek, hend hinside⟩)
  · exact .scalar (bind_eq_ok_iff.mpr ⟨_, _, hpeek, hend hinside⟩)
  · exact .scalar (bind_eq_ok_iff.mpr ⟨_, _, hpeek, hend hinside⟩)
  · exact .array hhead (hskip hinside)
  · exact .object hhead (hskip hinside)
  · split at hinside
    · rename_i hstarts
      have hb : startsNumber b = true := hstarts
      refine .scalar (bind_eq_ok_iff.mpr ⟨_, _, hpeek, ?_⟩)
      dsimp only
      rw [if_pos hb]
      exact hend hinside
    · cases hinside

-- A scalar that is passed over by itself is passed over as a value.
theorem pass_of_passScalar (h : passScalar c.word = .ok () c') : pass c = .ok () c' := by
  change passInside [] (2 * c.rest.length + 1 + 1) c = .ok () c'
  obtain ⟨first, here, hpeek, hscalar⟩ := bind_eq_ok_iff.mp h
  obtain ⟨hfirst, rfl⟩ := peek_eq_ok_iff.mp hpeek
  have hend : ∀ {r : Reader Unit}, r c.word = .ok () c' →
      (r >>= fun _ => passAfter true [] (2 * c.rest.length + 1)) c.word = .ok () c' := fun hr =>
    bind_eq_ok_iff.mpr ⟨(), c', hr, passAfter_nil.mpr rfl⟩
  cases first with
  | none => cases hscalar
  | some b =>
      rw [passInside]
      refine bind_eq_ok_iff.mpr ⟨b, c.word, valueStart_eq_ok_iff.mpr ⟨hfirst.symm, rfl⟩, ?_⟩
      dsimp only at hscalar
      split_ifs at hscalar with hnumber htext hnull htrue hfalse
      · have hrest : ∀ {rest : Reader Unit}, (passNumber >>= fun _ =>
            passAfter true [] (2 * c.rest.length + 1)) = rest → rest c.word = .ok () c' := by
          rintro _ rfl
          exact hend hscalar
        refine hrest ?_
        symm
        split
        case h_7 => exact if_pos hnumber
        all_goals cases hnumber
      · subst htext
        exact hend hscalar
      · subst hnull
        exact hend hscalar
      · subst htrue
        exact hend hscalar
      · subst hfalse
        exact hend hscalar
      · cases hscalar

section Readers

theorem unexpected_ne_ok {α : Type} (expected : String) (a : α) :
    unexpected expected c ≠ .ok a c' := by
  intro h
  obtain ⟨f, last, _, hfail⟩ := bind_eq_ok_iff.mp (located_eq_ok_iff.mp h)
  cases hfail

theorem stringBody_of_text {s : String} (h : text c = .ok s c') :
    c.word.rest.head? = some 34 ∧ stringBody c.word = .ok s c' := by
  unfold text textAs at h
  obtain ⟨b, here, hstart, h⟩ := bind_eq_ok_iff.mp h
  obtain ⟨hhead, rfl⟩ := valueStart_eq_ok_iff.mp hstart
  split at h
  · rename_i hquote
    subst hquote
    obtain ⟨s', last, hbody, hend⟩ := bind_eq_ok_iff.mp (located_eq_ok_iff.mp h)
    cases hend
    exact ⟨hhead, hbody⟩
  · exact absurd h (unexpected_ne_ok _ _)

theorem passScalar_of_text {s : String} (h : text c = .ok s c') :
    passScalar c.word = .ok () c' :=
  passScalar_of_string (stringBody_of_text h).1 (stringBody_of_text h).2

end Readers

end Gallery.Json.Reader

namespace Gallery.Json

-- The whole number that a number was read as.
def Number.whole? : Number → Option Int
  | .natural n => some n
  | .negative n => some n
  | .floating _ => none

namespace Reader

variable {c c' : Cursor}

theorem number_of_signedWord {k : Int} (h : signedWord c = .ok k c') :
    ∃ b n, c.word.rest.head? = some b ∧ startsNumber b = true ∧ number c.word = .ok n c' ∧
      n.whole? = some k := by
  unfold signedWord wholeNumber at h
  obtain ⟨b, here, hstart, h⟩ := bind_eq_ok_iff.mp h
  obtain ⟨hhead, rfl⟩ := valueStart_eq_ok_iff.mp hstart
  split at h
  · rename_i hb
    obtain ⟨n, last, hnumber, h⟩ := bind_eq_ok_iff.mp (located_eq_ok_iff.mp h)
    refine ⟨b, n, hhead, hb, ?_⟩
    cases n with
    | natural m =>
        dsimp only at h
        split at h
        · obtain ⟨rfl, rfl⟩ := pure_eq_ok_iff.mp h
          exact ⟨hnumber, rfl⟩
        · cases h
    | negative m =>
        dsimp only at h
        split at h
        · obtain ⟨rfl, rfl⟩ := pure_eq_ok_iff.mp h
          exact ⟨hnumber, rfl⟩
        · cases h
    | floating x => cases h
  · exact absurd h (unexpected_ne_ok _ _)

theorem passScalar_of_signedWord {k : Int} (h : signedWord c = .ok k c') :
    passScalar c.word = .ok () c' := by
  obtain ⟨b, n, hhead, hb, hnumber, _⟩ := number_of_signedWord h
  exact passScalar_of_number hhead hb hnumber

theorem passScalar_of_option {α : Type} {r : Reader α} {a : Option α}
    (hr : ∀ {c c' : Cursor} {a : α}, r c = .ok a c' → passScalar c.word = .ok () c')
    (h : option r c = .ok a c') : passScalar c.word = .ok () c' := by
  unfold option at h
  obtain ⟨first, here, hpeek, h⟩ := bind_eq_ok_iff.mp h
  obtain ⟨hfirst, rfl⟩ := peekWord_eq_ok_iff.mp hpeek
  split at h
  · rename_i hnull
    obtain ⟨_, last, hword, hend⟩ := bind_eq_ok_iff.mp h
    obtain ⟨_, rfl⟩ := pure_eq_ok_iff.mp hend
    exact passScalar_of_null (hfirst ▸ hnull) hword
  · obtain ⟨a, last, hread, hend⟩ := bind_eq_ok_iff.mp h
    obtain ⟨_, rfl⟩ := pure_eq_ok_iff.mp hend
    have hpass := hr hread
    rwa [Cursor.word_word] at hpass

end Reader

end Gallery.Json
