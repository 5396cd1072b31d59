import Gallery.Proofs.Except
import Gallery.Proofs.Text
import Gallery.Text.Base64

namespace Gallery.Text.Base64

namespace Alphabet

variable (a : Alphabet)

theorem value?_symbol {v : Nat} (h : v < 64) : a.value? (a.symbol v) = some v := by
  have hall : ∀ v < 64, a.value? (a.symbol v) = some v := by cases a <;> decide
  exact hall v h

theorem symbol_ne_pad {v : Nat} (h : v < 64) : a.symbol v ≠ pad := by
  have hall : ∀ v < 64, a.symbol v ≠ pad := by cases a <;> decide
  exact hall v h

-- A value is read from its symbol only.
theorem eq_symbol_of_value? {b : UInt8} {v : Nat} (h : a.value? b = some v) :
    v < 64 ∧ b = a.symbol v := by
  have hall : ∀ n < 256, ∀ v ∈ a.value? (UInt8.ofNat n), v < 64 ∧ UInt8.ofNat n = a.symbol v := by
    cases a <;> decide +kernel
  have hb := hall b.toNat b.toNat_lt v
  rw [UInt8.ofNat_toNat] at hb
  exact hb h

end Alphabet

-- The bytes of a group are in its symbols: all of the first and a part of the second, and so on.
theorem firstByte_parts (x : UInt8) {r : Nat} (h : r < 16) :
    firstByte (x.toNat / 4) (x.toNat % 4 * 16 + r) = x := by
  have hparts : 4 * (x.toNat / 4) + (x.toNat % 4 * 16 + r) / 16 = x.toNat := by omega
  rw [firstByte, hparts]
  exact UInt8.ofNat_toNat

theorem secondByte_parts (y : UInt8) (q : Nat) {r : Nat} (h : r < 4) :
    secondByte (q * 16 + y.toNat / 16) (y.toNat % 16 * 4 + r) = y := by
  have hy := y.toNat_lt
  have hparts : 16 * ((q * 16 + y.toNat / 16) % 16) + (y.toNat % 16 * 4 + r) / 4 = y.toNat := by
    omega
  rw [secondByte, hparts]
  exact UInt8.ofNat_toNat

theorem thirdByte_parts (z : UInt8) (q : Nat) :
    thirdByte (q * 4 + z.toNat / 64) (z.toNat % 64) = z := by
  have hz := z.toNat_lt
  have hparts : 64 * ((q * 4 + z.toNat / 64) % 4) + z.toNat % 64 = z.toNat := by omega
  rw [thirdByte, hparts]
  exact UInt8.ofNat_toNat

variable (a : Alphabet) (padded : Bool)

theorem valueAt_symbol (offset : Nat) {v : Nat} (h : v < 64) :
    valueAt a offset (a.symbol v) = .ok v := by
  rw [valueAt, a.value?_symbol h]

theorem encodeIn_eq_nil_iff (bytes : List UInt8) :
    encodeIn a padded bytes = [] ↔ bytes = [] := by
  fun_cases encodeIn a padded bytes <;> simp

-- A last group holds up to three bytes.
theorem lastGroup_encodeIn (offset : Nat) (bytes : List UInt8) (h : bytes.length ≤ 3) :
    lastGroup a padded offset (encodeIn a padded bytes) = .ok bytes := by
  fun_cases encodeIn a padded bytes with
  | case1 => rfl
  | case2 x =>
      have hx := x.toNat_lt
      have hfirst := firstByte_parts x (r := 0) (by omega)
      cases padded <;>
        simpa (disch := omega) [lastGroup, pair, valueAt_symbol, bind, Except.bind] using hfirst
  | case3 x y =>
      have hx := x.toNat_lt
      have hy := y.toNat_lt
      have hfirst := firstByte_parts x (r := y.toNat / 16) (by omega)
      have hsecond := secondByte_parts y (x.toNat % 4) (r := 0) (by omega)
      cases padded <;>
        simpa (disch := omega) [lastGroup, triple, valueAt_symbol, Alphabet.symbol_ne_pad, bind,
          Except.bind] using ⟨hfirst, hsecond⟩
  | case4 x y z rest =>
      have hrest : rest = [] := by
        rw [← List.length_eq_zero_iff]
        simp only [List.length_cons] at h
        omega
      subst hrest
      have hx := x.toNat_lt
      have hy := y.toNat_lt
      have hz := z.toNat_lt
      simp (disch := omega) [lastGroup, valueAt_symbol, Alphabet.symbol_ne_pad, firstByte_parts,
        secondByte_parts, thirdByte_parts, bind, Except.bind]

-- A text of one group is read as the last one.
theorem groups_of_lastGroup (offset : Nat) (done : List UInt8) {group bytes : List UInt8}
    (hshort : group.length ≤ 4) (h : lastGroup a padded offset group = .ok bytes) :
    groups a padded offset done group = .ok (done.reverse ++ bytes) := by
  rw [groups.eq_2]
  · rw [h]
    rfl
  · rintro _ _ _ _ _ _ rfl
    simp only [List.length_cons] at hshort
    omega

-- By induction on the groups that encoding writes. Decoding must see one more byte to know that a
-- group is not the last, so a full group is either the last or followed by a text that is not
-- empty.
theorem groups_encodeIn (offset : Nat) (done bytes : List UInt8) :
    groups a padded offset done (encodeIn a padded bytes) = .ok (done.reverse ++ bytes) := by
  fun_induction encodeIn a padded bytes generalizing offset done with
  | case1 => rfl
  | case2 x =>
      have hlast := lastGroup_encodeIn a padded offset [x] (by simp)
      refine groups_of_lastGroup a padded offset done ?_ hlast
      cases padded <;> simp
  | case3 x y =>
      have hlast := lastGroup_encodeIn a padded offset [x, y] (by simp)
      refine groups_of_lastGroup a padded offset done ?_ hlast
      cases padded <;> simp
  | case4 x y z rest ih =>
      cases hrest : encodeIn a padded rest with
      | nil =>
          obtain rfl := (encodeIn_eq_nil_iff a padded rest).mp hrest
          have hlast := lastGroup_encodeIn a padded offset [x, y, z] (by simp)
          exact groups_of_lastGroup a padded offset done (by simp) hlast
      | cons e more =>
          have hx := x.toNat_lt
          have hy := y.toNat_lt
          have hz := z.toNat_lt
          rw [hrest] at ih
          simp (disch := omega) only [groups, valueAt_symbol, firstByte_parts, secondByte_parts,
            thirdByte_parts, bind, Except.bind, ih]
          simp

theorem length_encodeIn_mod (bytes : List UInt8) :
    (encodeIn a padded bytes).length % 4 ≠ 1 := by
  fun_induction encodeIn a padded bytes with
  | case1 => simp
  | case2 x => cases padded <;> simp
  | case3 x y => cases padded <;> simp
  | case4 x y z rest ih =>
      simp only [List.length_cons]
      omega

-- What encoding writes is read back.
theorem decodeWith_encodeIn (bytes : List UInt8) :
    decodeWith a padded (encodeIn a padded bytes) = .ok bytes := by
  unfold decodeWith
  split
  · rename_i hlength _
    exact absurd hlength (length_encodeIn_mod a padded bytes)
  · exact groups_encodeIn a padded 0 [] bytes

theorem decode_encode (bytes : List UInt8) : decode (encode bytes) = .ok bytes :=
  decodeWith_encodeIn .standard true bytes

theorem toNat_firstByte {x y : Nat} (hx : x < 64) (hy : y < 64) :
    (firstByte x y).toNat = 4 * x + y / 16 := by
  have hbyte : 4 * x + y / 16 < 2 ^ 8 := by omega
  exact UInt8.toNat_ofNat_of_lt' hbyte

theorem toNat_secondByte (y : Nat) {z : Nat} (hz : z < 64) :
    (secondByte y z).toNat = 16 * (y % 16) + z / 4 := by
  have hbyte : 16 * (y % 16) + z / 4 < 2 ^ 8 := by omega
  exact UInt8.toNat_ofNat_of_lt' hbyte

theorem toNat_thirdByte (z : Nat) {w : Nat} (hw : w < 64) :
    (thirdByte z w).toNat = 64 * (z % 4) + w := by
  have hbyte : 64 * (z % 4) + w < 2 ^ 8 := by omega
  exact UInt8.toNat_ofNat_of_lt' hbyte

-- The symbols of a group are in its bytes, if the last one has no bits left over.
theorem encodeIn_pair {x y : Nat} (hx : x < 64) (hy : y < 64) (hrest : y % 16 = 0) :
    encodeIn a padded [firstByte x y] =
      a.symbol x :: a.symbol y :: if padded then [pad, pad] else [] := by
  have hx' : (4 * x + y / 16) / 4 = x := by omega
  have hy' : (4 * x + y / 16) % 4 * 16 = y := by omega
  rw [encodeIn, toNat_firstByte hx hy, hx', hy']

theorem encodeIn_triple {x y z : Nat} (hx : x < 64) (hy : y < 64) (hz : z < 64)
    (hrest : z % 4 = 0) :
    encodeIn a padded [firstByte x y, secondByte y z] =
      a.symbol x :: a.symbol y :: a.symbol z :: if padded then [pad] else [] := by
  have hx' : (4 * x + y / 16) / 4 = x := by omega
  have hy' : (4 * x + y / 16) % 4 * 16 + (16 * (y % 16) + z / 4) / 16 = y := by omega
  have hz' : (16 * (y % 16) + z / 4) % 16 * 4 = z := by omega
  rw [encodeIn, toNat_firstByte hx hy, toNat_secondByte y hz, hx', hy', hz']

theorem encodeIn_full {x y z w : Nat} (hx : x < 64) (hy : y < 64) (hz : z < 64) (hw : w < 64)
    (rest : List UInt8) :
    encodeIn a padded (firstByte x y :: secondByte y z :: thirdByte z w :: rest) =
      a.symbol x :: a.symbol y :: a.symbol z :: a.symbol w :: encodeIn a padded rest := by
  have hx' : (4 * x + y / 16) / 4 = x := by omega
  have hy' : (4 * x + y / 16) % 4 * 16 + (16 * (y % 16) + z / 4) / 16 = y := by omega
  have hz' : (16 * (y % 16) + z / 4) % 16 * 4 + (64 * (z % 4) + w) / 64 = z := by omega
  have hw' : (64 * (z % 4) + w) % 64 = w := by omega
  rw [encodeIn, toNat_firstByte hx hy, toNat_secondByte y hz, toNat_thirdByte z hw, hx', hy', hz',
    hw']

-- A byte that others follow was read only if it is a symbol.
theorem exists_symbol_of_valueAt {offset : Nat} {b : UInt8} {β : Type}
    {f : Nat → Except DecodeError β} {found : β} (h : valueAt a offset b >>= f = .ok found) :
    ∃ v < 64, b = a.symbol v ∧ f v = .ok found := by
  obtain ⟨v, hv, hrest⟩ := Except.exists_of_bind_eq_ok h
  unfold valueAt at hv
  split at hv
  · rename_i hvalue
    cases hv
    obtain ⟨hsmall, hb⟩ := a.eq_symbol_of_value? hvalue
    exact ⟨v, hsmall, hb, hrest⟩
  · cases hv

theorem encodeIn_of_pair {offset : Nat} {b : UInt8} {x y : Nat} (hx : x < 64) (hy : y < 64)
    {bytes : List UInt8} (h : pair offset b x y = .ok bytes) :
    encodeIn a padded bytes =
      a.symbol x :: a.symbol y :: if padded then [pad, pad] else [] := by
  unfold pair at h
  split at h
  · rename_i hrest
    cases h
    exact encodeIn_pair a padded hx hy hrest
  · cases h

theorem encodeIn_of_triple {offset : Nat} {b : UInt8} {x y z : Nat} (hx : x < 64) (hy : y < 64)
    (hz : z < 64) {bytes : List UInt8} (h : triple offset b x y z = .ok bytes) :
    encodeIn a padded bytes =
      a.symbol x :: a.symbol y :: a.symbol z :: if padded then [pad] else [] := by
  unfold triple at h
  split at h
  · rename_i hrest
    cases h
    exact encodeIn_triple a padded hx hy hz hrest
  · cases h

-- A last group is read only if encoding writes it.
theorem eq_encodeIn_of_lastGroup {offset : Nat} {group bytes : List UInt8}
    (hshort : group.length ≤ 4) (h : lastGroup a padded offset group = .ok bytes) :
    group = encodeIn a padded bytes := by
  fun_cases lastGroup a padded offset group with
  | case1 =>
      cases h
      rfl
  | case2 b =>
      obtain ⟨x, _, _, hread⟩ := exists_symbol_of_valueAt a h
      cases hread
  | case3 b c =>
      obtain ⟨x, hx, hb, hread⟩ := exists_symbol_of_valueAt a h
      obtain ⟨y, hy, hc, hread⟩ := exists_symbol_of_valueAt a hread
      split at hread
      · cases hread
      · rename_i hunpadded
        rw [hb, hc, encodeIn_of_pair a padded hx hy hread, if_neg hunpadded]
  | case4 b c d =>
      obtain ⟨x, hx, hb, hread⟩ := exists_symbol_of_valueAt a h
      obtain ⟨y, hy, hc, hread⟩ := exists_symbol_of_valueAt a hread
      split at hread
      · cases hread
      obtain ⟨z, hz, hd, hread⟩ := exists_symbol_of_valueAt a hread
      split at hread
      · cases hread
      · rename_i hunpadded
        rw [hb, hc, hd, encodeIn_of_triple a padded hx hy hz hread, if_neg hunpadded]
  | case5 b c d e rest =>
      have hrest : rest = [] := by
        rw [← List.length_eq_zero_iff]
        simp only [List.length_cons] at hshort
        omega
      obtain ⟨x, hx, hb, hread⟩ := exists_symbol_of_valueAt a h
      obtain ⟨y, hy, hc, hread⟩ := exists_symbol_of_valueAt a hread
      rw [hrest, hb, hc]
      split at hread
      · -- two bytes of padding
        rename_i hd
        split at hread
        · cases hread
        rename_i he
        split at hread
        · rename_i hpadded
          rw [hd, not_not.mp he, encodeIn_of_pair a padded hx hy hread, if_pos hpadded]
        · cases hread
      · obtain ⟨z, hz, hd, hread⟩ := exists_symbol_of_valueAt a hread
        rw [hd]
        split at hread
        · -- one byte of padding
          rename_i he
          split at hread
          · rename_i hpadded
            rw [he, encodeIn_of_triple a padded hx hy hz hread, if_pos hpadded]
          · cases hread
        · obtain ⟨w, hw, he, hread⟩ := exists_symbol_of_valueAt a hread
          cases hread
          rw [he, encodeIn_full a padded hx hy hz hw, encodeIn]

-- By induction on the groups that decoding reads.
theorem exists_of_groups {offset : Nat} {done text bytes : List UInt8}
    (h : groups a padded offset done text = .ok bytes) :
    ∃ rest, bytes = done.reverse ++ rest ∧ text = encodeIn a padded rest := by
  fun_induction groups a padded offset done text with
  | case1 offset done b c d e next more ih =>
      obtain ⟨x, hx, hb, hread⟩ := exists_symbol_of_valueAt a h
      obtain ⟨y, hy, hc, hread⟩ := exists_symbol_of_valueAt a hread
      obtain ⟨z, hz, hd, hread⟩ := exists_symbol_of_valueAt a hread
      obtain ⟨w, hw, he, hread⟩ := exists_symbol_of_valueAt a hread
      obtain ⟨rest, hbytes, hmore⟩ := ih x y z w hread
      refine ⟨firstByte x y :: secondByte y z :: thirdByte z w :: rest, by simpa using hbytes, ?_⟩
      rw [encodeIn_full a padded hx hy hz hw, hb, hc, hd, he, hmore]
  | case2 offset done group hlast =>
      have hshort : group.length ≤ 4 := by
        match group, hlast with
        | [], _ | [_], _ | [_, _], _ | [_, _, _], _ | [_, _, _, _], _ => simp
        | b :: c :: d :: e :: next :: more, hlast => exact absurd rfl (hlast b c d e next more)
      obtain ⟨rest, hrest, hbytes⟩ := Except.exists_of_bind_eq_ok h
      cases hbytes
      exact ⟨rest, rfl, eq_encodeIn_of_lastGroup a padded hshort hrest⟩

-- What is read back is what encoding writes, and nothing else.
theorem decodeWith_eq_ok_iff (text bytes : List UInt8) :
    decodeWith a padded text = .ok bytes ↔ text = encodeIn a padded bytes := by
  constructor
  · intro h
    have hgroups : groups a padded 0 [] text = .ok bytes := by
      unfold decodeWith at h
      split at h
      · split at h
        · cases h
        · split at h
          · cases h
          · exact h
      · exact h
    obtain ⟨rest, hbytes, htext⟩ := exists_of_groups a padded hgroups
    rw [htext, hbytes, List.reverse_nil, List.nil_append]
  · rintro rfl
    exact decodeWith_encodeIn a padded bytes

theorem decode_eq_ok_iff (text bytes : List UInt8) :
    decode text = .ok bytes ↔ text = encode bytes :=
  decodeWith_eq_ok_iff .standard true text bytes

theorem decodeUrlSafe_eq_ok_iff (text bytes : List UInt8) :
    decodeUrlSafe text = .ok bytes ↔ text = encodeUrlSafe bytes :=
  decodeWith_eq_ok_iff .urlSafe false text bytes

theorem length_encode (bytes : List UInt8) :
    (encode bytes).length = (bytes.length + 2) / 3 * 4 := by
  unfold encode
  fun_induction encodeIn Alphabet.standard true bytes with
  | case1 => rfl
  | case2 x => simp
  | case3 x y => simp
  | case4 x y z rest ih =>
      simp only [List.length_cons, ih]
      omega

-- What holds of the symbols and of the padding holds of all that is written.
theorem forall_mem_encodeIn {p : UInt8 → Prop} (hpad : p pad)
    (hsymbol : ∀ v < 64, p (a.symbol v)) (bytes : List UInt8) :
    ∀ b ∈ encodeIn a padded bytes, p b := by
  fun_induction encodeIn a padded bytes with
  | case1 => simp
  | case2 x =>
      have hx := x.toNat_lt
      cases padded <;> simp (disch := omega) [hpad, hsymbol]
  | case3 x y =>
      have hx := x.toNat_lt
      have hy := y.toNat_lt
      cases padded <;> simp (disch := omega) [hpad, hsymbol]
  | case4 x y z rest ih =>
      have hx := x.toNat_lt
      have hy := y.toNat_lt
      have hz := z.toNat_lt
      simp (disch := omega) only [List.forall_mem_cons, hsymbol, true_and]
      exact ih

-- The characters of standard text.
def encodedText (bytes : List UInt8) : List Char := (encode bytes).map fun b => Char.ofNat b.toNat

theorem forall_mem_encodedText {p : Char → Prop} (hpad : p '=')
    (hsymbol : ∀ v < 64, p (Char.ofNat (Alphabet.standard.symbol v).toNat)) (bytes : List UInt8) :
    ∀ c ∈ encodedText bytes, p c := by
  rw [encodedText, List.forall_mem_map]
  exact forall_mem_encodeIn .standard true (p := fun b => p (Char.ofNat b.toNat)) hpad hsymbol
    bytes

theorem utf8_encodedText (bytes : List UInt8) :
    (encodedText bytes).flatMap String.utf8EncodeChar = encode bytes := by
  have hbyte : ∀ b ∈ encode bytes, String.utf8EncodeChar (Char.ofNat b.toNat) = [b] :=
    forall_mem_encodeIn .standard true (by decide) (by decide) bytes
  rw [encodedText, List.flatMap_map, List.flatMap_congr hbyte]
  simp

-- So they are the only ones that are decoded to the bytes.
theorem decode_utf8_eq_ok_iff (cs : List Char) (bytes : List UInt8) :
    decode (cs.flatMap String.utf8EncodeChar) = .ok bytes ↔ cs = encodedText bytes := by
  rw [decode_eq_ok_iff, ← utf8_encodedText, ← utf8_ofList, ← utf8_ofList, utf8_injective.eq_iff,
    String.ofList_inj]

end Gallery.Text.Base64
