import Gallery.Proofs.Json.Reader

-- Numbers that are read and numbers that are passed over end at the same place.

namespace Gallery.Json

-- Behind the digits that the reader stands before.
def Cursor.pastDigits (c : Cursor) : Cursor := c.advance (c.rest.takeWhile isDigit).length

-- To read some of the digits first makes no difference.
theorem Cursor.pastDigits_advance {c : Cursor} {count : Nat}
    (h : count ≤ (c.rest.takeWhile isDigit).length) :
    (c.advance count).pastDigits = c.pastDigits := by
  have hdigits : ∀ b ∈ (c.rest.takeWhile isDigit).drop count, isDigit b = true := by
    intro b hb
    exact List.mem_takeWhile_imp (List.mem_of_mem_drop hb)
  have hnone : (c.rest.dropWhile isDigit).takeWhile isDigit = [] := by
    rw [List.takeWhile_eq_nil_iff]
    exact List.dropWhile_get_zero_not _ _
  have hrest : (c.rest.drop count).takeWhile isDigit =
      (c.rest.takeWhile isDigit).drop count := by
    have hdrop : c.rest.drop count =
        (c.rest.takeWhile isDigit).drop count ++ c.rest.dropWhile isDigit := by
      rw [← List.drop_append_of_le_length h, List.takeWhile_append_dropWhile]
    rw [hdrop, List.takeWhile_append_of_pos hdigits, hnone, List.append_nil]
  have hcount : ((c.advance count).rest.takeWhile isDigit).length =
      (c.rest.takeWhile isDigit).length - count := by
    rw [advance, hrest, List.length_drop]
  rw [pastDigits, hcount, advance_advance, pastDigits]
  congr 1
  omega

namespace Reader

variable {c c' : Cursor}

theorem digits_eq_ok_iff {ds : List UInt8} :
    digits c = .ok ds c' ↔ ds = c.rest.takeWhile isDigit ∧ c' = c.pastDigits := by
  have hdigits : digits c = .ok (c.rest.takeWhile isDigit) c.pastDigits := rfl
  rw [hdigits, EStateM.Result.ok.injEq, eq_comm, @eq_comm _ c']

-- Not more digits are read of an exponent than there are, and all if it does not become too large.
theorem exponentOf_count (e count : Nat) (ds : List UInt8) :
    (exponentOf e count ds).2.1 ≤ count + ds.length ∧
      ((exponentOf e count ds).2.2 = true → (exponentOf e count ds).2.1 = count + ds.length) := by
  fun_induction exponentOf e count ds with
  | case1 e count => exact ⟨Nat.le_refl _, fun _ => rfl⟩
  | case2 e count d rest e' hfits ih =>
      rw [List.length_cons]
      exact ⟨by omega, fun hwhole => by have := ih.2 hwhole; omega⟩
  | case3 e count d rest e' hlarge =>
      rw [List.length_cons]
      exact ⟨by dsimp only; omega, nofun⟩

theorem eq_of_scaled {positive : Bool} {significand : Nat} {exponent : Int} {n : Number}
    (h : scaled positive significand exponent c = .ok n c') : c' = c := by
  unfold scaled at h
  cases hfloating : floating positive significand exponent with
  | none =>
      rw [hfloating] at h
      cases h
  | some x =>
      rw [hfloating] at h
      exact (pure_eq_ok_iff.mp h).2.symm

theorem passDigits_of_isDigit {d : UInt8} (hhead : c.rest.head? = some d) (hdigit : isDigit d = true) :
    passDigits c = .ok () (c.advance 1).pastDigits := by
  unfold passDigits
  refine bind_eq_ok_iff.mpr ⟨some d, c.advance 1, next_eq_ok_iff.mpr ⟨hhead.symm, rfl⟩, ?_⟩
  simp only [hdigit, if_true]
  exact discard_eq_ok_iff.mpr ⟨_, digits_eq_ok_iff.mpr ⟨rfl, rfl⟩⟩

theorem passExponent_of_exponentPart {positive : Bool} {significand : Nat} {before : Int}
    {n : Number} (hhead : c.rest.head? = some 101 ∨ c.rest.head? = some 69)
    (h : exponentPart positive significand before c = .ok n c') : passExponent c = .ok () c' := by
  unfold exponentPart at h
  obtain ⟨_, start, hskip, h⟩ := bind_eq_ok_iff.mp h
  obtain ⟨upward, signed, hsign, h⟩ := bind_eq_ok_iff.mp h
  obtain ⟨first, later, hnext, h⟩ := bind_eq_ok_iff.mp h
  obtain ⟨hfirst, rfl⟩ := next_eq_ok_iff.mp hnext
  split at h
  · cases h
  rename_i d
  split at h
  · cases h
  rename_i hdigit
  obtain ⟨here, _, hget, h⟩ := bind_eq_ok_iff.mp h
  obtain ⟨rfl, rfl⟩ := get_eq_ok_iff.mp hget
  have hcount := exponentOf_count (d.toNat - 48) 0 ((signed.advance 1).rest.takeWhile isDigit)
  generalize exponentOf (d.toNat - 48) 0 ((signed.advance 1).rest.takeWhile isDigit) = read
    at h hcount
  obtain ⟨e, count, whole⟩ := read
  dsimp only at h hcount
  obtain ⟨_, kept, hkept, h⟩ := bind_eq_ok_iff.mp h
  rw [skip_eq_ok_iff] at hkept
  subst hkept
  have hpast : c' = (signed.advance 1).pastDigits := by
    split at h
    · rename_i hwhole
      rw [eq_of_scaled h, hcount.2 hwhole, Nat.zero_add]
      rfl
    · split at h
      · cases h
      · obtain ⟨ds, past, hds, h⟩ := bind_eq_ok_iff.mp h
        rw [← (pure_eq_ok_iff.mp h).2, (digits_eq_ok_iff.mp hds).2]
        exact Cursor.pastDigits_advance (by omega)
  subst hpast
  unfold passExponent
  refine bind_eq_ok_iff.mpr ⟨_, _, peek_eq_ok_iff.mpr ⟨rfl, rfl⟩, ?_⟩
  refine bind_eq_ok_iff.mpr ⟨_, _, peek_eq_ok_iff.mpr ⟨rfl, rfl⟩, ?_⟩
  rw [if_pos (by simpa using hhead)]
  refine bind_eq_ok_iff.mpr ⟨(), start, hskip, ?_⟩
  refine bind_eq_ok_iff.mpr ⟨(), signed, discard_eq_ok_iff.mpr ⟨upward, hsign⟩, ?_⟩
  exact passDigits_of_isDigit hfirst.symm (by simpa using hdigit)

-- Where nothing of the kind comes, nothing is passed.
theorem passFraction_of_ne (h : c.rest.head? ≠ some 46) : passFraction c = .ok () c := by
  unfold passFraction
  refine bind_eq_ok_iff.mpr ⟨_, _, peek_eq_ok_iff.mpr ⟨rfl, rfl⟩, ?_⟩
  rw [if_neg h]
  rfl

theorem passExponent_of_ne (hsmall : c.rest.head? ≠ some 101) (hlarge : c.rest.head? ≠ some 69) :
    passExponent c = .ok () c := by
  unfold passExponent
  refine bind_eq_ok_iff.mpr ⟨_, _, peek_eq_ok_iff.mpr ⟨rfl, rfl⟩, ?_⟩
  refine bind_eq_ok_iff.mpr ⟨_, _, peek_eq_ok_iff.mpr ⟨rfl, rfl⟩, ?_⟩
  rw [if_neg (by simp [hsmall, hlarge])]
  rfl

-- What may follow the digits of a number: a fraction, and an exponent.
def passTail : Reader Unit := do
  passFraction
  passExponent

theorem passTail_of_exponentPart {positive : Bool} {significand : Nat} {before : Int} {n : Number}
    (hhead : c.rest.head? = some 101 ∨ c.rest.head? = some 69)
    (h : exponentPart positive significand before c = .ok n c') : passTail c = .ok () c' := by
  have hpoint : c.rest.head? ≠ some 46 := by
    rcases hhead with hhead | hhead <;> rw [hhead] <;> decide
  exact bind_eq_ok_iff.mpr ⟨(), c, passFraction_of_ne hpoint, passExponent_of_exponentPart hhead h⟩

theorem passTail_of_fractionPart {positive : Bool} {significand : Nat} {before : Int} {n : Number}
    (hhead : c.rest.head? = some 46)
    (h : fractionPart positive significand before c = .ok n c') : passTail c = .ok () c' := by
  unfold fractionPart at h
  obtain ⟨_, start, hskip, h⟩ := bind_eq_ok_iff.mp h
  obtain ⟨ds, past, hds, h⟩ := bind_eq_ok_iff.mp h
  cases hempty : ds.isEmpty with
  | true =>
      rw [if_pos hempty] at h
      obtain ⟨next, _, _, h⟩ := bind_eq_ok_iff.mp h
      cases next <;> cases h
  | false =>
      rw [if_neg (by simp [hempty])] at h
      have hfraction : passFraction c = .ok () past := by
        unfold passFraction
        refine bind_eq_ok_iff.mpr ⟨_, _, peek_eq_ok_iff.mpr ⟨rfl, rfl⟩, ?_⟩
        rw [if_pos hhead]
        refine bind_eq_ok_iff.mpr ⟨(), start, hskip, bind_eq_ok_iff.mpr ⟨ds, past, hds, ?_⟩⟩
        rw [if_neg (by simp [hempty])]
        rfl
      refine bind_eq_ok_iff.mpr ⟨(), past, hfraction, ?_⟩
      obtain ⟨next, here, rest, hpeek, hrest, h⟩ := exists_of_bind_eq_ok h
      obtain ⟨hnext, rfl⟩ := peek_eq_ok_iff.mp hpeek
      split at hrest <;> subst hrest
      · exact passExponent_of_exponentPart (Or.inl hnext.symm) h
      · exact passExponent_of_exponentPart (Or.inr hnext.symm) h
      · rename_i hsmall hlarge
        rw [eq_of_scaled h]
        exact passExponent_of_ne (hnext ▸ hsmall) (hnext ▸ hlarge)

theorem passTail_of_afterDigits {positive : Bool} {significand dropped : Nat} {n : Number}
    (h : afterDigits positive significand dropped c = .ok n c') : passTail c = .ok () c' := by
  unfold afterDigits at h
  obtain ⟨next, here, rest, hpeek, hrest, h⟩ := exists_of_bind_eq_ok h
  obtain ⟨hnext, rfl⟩ := peek_eq_ok_iff.mp hpeek
  split at hrest <;> subst hrest
  · exact passTail_of_fractionPart hnext.symm h
  · exact passTail_of_exponentPart (Or.inl hnext.symm) h
  · exact passTail_of_exponentPart (Or.inr hnext.symm) h
  · rename_i hpoint hsmall hlarge
    have hsame : c' = here := by
      split at h
      · exact eq_of_scaled h
      split at h
      · exact (pure_eq_ok_iff.mp h).2.symm
      split at h
      · exact (pure_eq_ok_iff.mp h).2.symm
      · exact (pure_eq_ok_iff.mp h).2.symm
    rw [hsame]
    exact bind_eq_ok_iff.mpr ⟨(), _, passFraction_of_ne (hnext ▸ hpoint),
      passExponent_of_ne (hnext ▸ hsmall) (hnext ▸ hlarge)⟩

-- A number without its sign: the digits, and what follows them.
theorem passWhole_of_unsigned {positive : Bool} {n : Number}
    (h : unsigned positive c = .ok n c') :
    ∃ past, passWhole c = .ok () past ∧ passTail past = .ok () c' := by
  unfold unsigned at h
  obtain ⟨first, start, hfirst, h⟩ := bind_eq_ok_iff.mp h
  obtain ⟨hhead, rfl⟩ := next_eq_ok_iff.mp hfirst
  split at h
  · cases h
  rename_i d
  split at h
  · rename_i hzero
    subst hzero
    obtain ⟨second, here, hpeek, h⟩ := bind_eq_ok_iff.mp h
    obtain ⟨hsecond, rfl⟩ := peek_eq_ok_iff.mp hpeek
    have hnot : second.any isDigit = false ∧
        ∃ n, afterDigits positive 0 0 (c.advance 1) = .ok n c' := by
      cases second with
      | none => exact ⟨rfl, n, h⟩
      | some e =>
          dsimp only at h
          split at h
          · cases h
          · rename_i hdigit
            exact ⟨by simpa using hdigit, n, h⟩
    refine ⟨c.advance 1, ?_, passTail_of_afterDigits hnot.2.choose_spec⟩
    unfold passWhole
    refine bind_eq_ok_iff.mpr ⟨_, _, peek_eq_ok_iff.mpr ⟨rfl, rfl⟩, ?_⟩
    rw [if_pos hhead.symm]
    refine bind_eq_ok_iff.mpr ⟨(), _, skip_eq_ok_iff.mpr rfl, ?_⟩
    refine bind_eq_ok_iff.mpr ⟨_, _, peek_eq_ok_iff.mpr ⟨rfl, rfl⟩, ?_⟩
    rw [← hsecond, hnot.1]
    rfl
  · rename_i hzero
    split at h
    · rename_i hdigit
      obtain ⟨ds, past, hds, h⟩ := bind_eq_ok_iff.mp h
      obtain ⟨rfl, rfl⟩ := digits_eq_ok_iff.mp hds
      refine ⟨_, ?_, passTail_of_afterDigits h⟩
      unfold passWhole
      refine bind_eq_ok_iff.mpr ⟨_, _, peek_eq_ok_iff.mpr ⟨rfl, rfl⟩, ?_⟩
      rw [if_neg (by simpa [← hhead] using hzero)]
      exact passDigits_of_isDigit hhead.symm hdigit
    · cases h

-- What is read as a number can be passed over as one, and both end at the same place.
theorem passNumber_of_number {n : Number} (h : number c = .ok n c') :
    passNumber c = .ok () c' := by
  unfold number at h
  unfold passNumber
  obtain ⟨first, here, hpeek, h⟩ := bind_eq_ok_iff.mp h
  obtain ⟨rfl, rfl⟩ := peek_eq_ok_iff.mp hpeek
  refine bind_eq_ok_iff.mpr ⟨_, _, hpeek, ?_⟩
  split at h
  · rename_i hminus
    obtain ⟨_, start, hskip, h⟩ := bind_eq_ok_iff.mp h
    obtain ⟨past, hwhole, htail⟩ := passWhole_of_unsigned h
    rw [if_pos hminus]
    exact bind_eq_ok_iff.mpr ⟨(), start, hskip, bind_eq_ok_iff.mpr ⟨(), past, hwhole, htail⟩⟩
  · rename_i hminus
    obtain ⟨past, hwhole, htail⟩ := passWhole_of_unsigned h
    rw [if_neg hminus]
    exact bind_eq_ok_iff.mpr ⟨(), past, hwhole, htail⟩

end Reader

end Gallery.Json
