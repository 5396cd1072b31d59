import Gallery.Access.ApiKeys
import Gallery.Proofs.Text
import Mathlib.Data.List.Forall2

namespace Gallery.Access.ApiKeys

theorem sameByte_eq (x y : UInt8) : sameByte x y = if x = y then 1 else 0 := by
  -- the bits depend on the difference alone
  have hall : ∀ d : Fin 256, ((UInt8.ofNat d ||| (0 - UInt8.ofNat d)) >>> 7) ^^^ 1 =
      if UInt8.ofNat d = 0 then 1 else 0 := by
    decide +kernel
  have hdifference := hall ⟨(x ^^^ y).toNat, (x ^^^ y).toNat_lt⟩
  simp only [UInt8.ofNat_toNat] at hdifference
  rw [sameByte, hdifference]
  simp only [UInt8.xor_eq_zero_iff]

-- Once two bytes have differed, the bit stays nothing.
theorem foldl_sameByte (same : Bool) (pairs : List (UInt8 × UInt8)) :
    pairs.foldl (fun same p => same &&& sameByte p.1 p.2) (if same then 1 else 0) =
      if same && pairs.all fun p => p.1 == p.2 then 1 else 0 := by
  induction pairs generalizing same with
  | nil => simp
  | cons p rest ih =>
      have hbit : (if same then (1 : UInt8) else 0) &&& sameByte p.1 p.2 =
          if (same && p.1 == p.2) then 1 else 0 := by
        rw [sameByte_eq]
        by_cases hp : p.1 = p.2 <;> cases same <;> simp [hp]
      rw [List.foldl_cons, hbit, ih, List.all_cons, Bool.and_assoc]

theorem sameBytes_eq_one_iff {xs ys : List UInt8} (hlength : xs.length = ys.length) :
    sameBytes xs ys = 1 ↔ xs = ys := by
  have hfold : sameBytes xs ys = if (xs.zip ys).all fun p => p.1 == p.2 then 1 else 0 :=
    foldl_sameByte true (xs.zip ys)
  have hpairs : (xs.zip ys).all (fun p => p.1 == p.2) = true ↔ xs = ys := by
    rw [List.all_eq_true, ← List.forall₂_eq_eq_eq, List.forall₂_iff_zip]
    simp only [beq_iff_eq]
    exact ⟨fun h => ⟨hlength, fun hp => h _ hp⟩, fun h _ hp => h.2 hp⟩
  rw [hfold, ← hpairs]
  by_cases hall : (xs.zip ys).all (fun p => p.1 == p.2) = true
  · rw [if_pos hall]
    exact iff_of_true rfl hall
  · rw [if_neg hall]
    exact iff_of_false (by decide) hall

theorem isKey_iff (candidate key : String) : isKey candidate key = true ↔ candidate = key := by
  unfold isKey
  by_cases hlength : candidate.utf8ByteSize = key.utf8ByteSize
  · rw [if_neg (not_not.mpr hlength), decide_eq_true_iff, sameBytes_eq_one_iff (by simpa using hlength)]
    exact Text.utf8_injective.eq_iff
  · rw [if_pos hlength]
    refine iff_of_false nofun ?_
    rintro rfl
    exact hlength rfl

-- A match at any place of the list is kept to its end.
theorem foldl_isKey (candidate : String) (matched : Bool) (keys : List String) :
    keys.foldl (fun matched key => isKey candidate key || matched) matched = true ↔
      matched = true ∨ candidate ∈ keys := by
  induction keys generalizing matched with
  | nil => simp
  | cons key rest ih =>
      rw [List.foldl_cons, ih, Bool.or_eq_true, isKey_iff, List.mem_cons]
      constructor
      · rintro ((hkey | hbefore) | hrest)
        · exact Or.inr (Or.inl hkey)
        · exact Or.inl hbefore
        · exact Or.inr (Or.inr hrest)
      · rintro (hbefore | hkey | hrest)
        · exact Or.inl (Or.inr hbefore)
        · exact Or.inl (Or.inl hkey)
        · exact Or.inr hrest

theorem accepts_iff_mem (k : ApiKeys) (candidate : String) :
    k.accepts candidate = true ↔ candidate ∈ k.accepted := by
  rw [accepts, foldl_isKey]
  simp

end Gallery.Access.ApiKeys
