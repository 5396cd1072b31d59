import Gallery.Segment
import Gallery.Proofs.Text
import Gallery.Text.Blank

namespace Gallery.Segment

private theorem isAlphanum_val_le {c : Char} (h : c.isAlphanum = true) : c.val ≤ 127 := by
  have hranges : (decide ('A'.val ≤ c.val ∧ c.val ≤ 'Z'.val) ||
      ('a'.val ≤ c.val && c.val ≤ 'z'.val) || ('0'.val ≤ c.val && c.val ≤ '9'.val)) = true := h
  simp only [Bool.or_eq_true, Bool.and_eq_true, decide_eq_true_eq] at hranges
  rcases hranges with (⟨_, hle⟩ | ⟨_, hle⟩) | ⟨_, hle⟩ <;> exact UInt32.le_trans hle (by decide)

theorem allows_val_le {c : Char} (h : allows c = true) : c.val ≤ 127 := by
  simp only [allows, Bool.or_eq_true, beq_iff_eq] at h
  rcases h with ((((h | rfl) | rfl) | rfl) | rfl) | rfl
  · exact isAlphanum_val_le h
  all_goals decide

-- The grammar of segments. The checks for NUL and for separators are in it too, since neither
-- is an allowed character.
theorem fault?_eq_none_iff (raw : String) :
    fault? raw = none ↔
      raw.toList ≠ [] ∧ raw.utf8ByteSize ≤ maxBytes ∧ hasTraversal raw.toList = false ∧
        raw.toList.head? ≠ some '.' ∧ ∀ c ∈ raw.toList, allows c = true := by
  have hsep : ∀ c : Char, c ∈ raw.toList → (∀ d ∈ raw.toList, allows d = true) →
      c ≠ '\x00' ∧ c ≠ '/' ∧ c ≠ '\\' := by
    intro c hc hall
    have hallowed := hall c hc
    refine ⟨?_, ?_, ?_⟩ <;> rintro rfl <;> exact absurd hallowed (by decide)
  constructor
  · intro h
    unfold fault? at h
    simp only at h
    split at h; · cases h
    split at h; · cases h
    split at h; · cases h
    split at h; · cases h
    split at h; · cases h
    split at h; · cases h
    rename_i hempty hlong _ htraversal _ hhead
    refine ⟨by simpa using hempty, by omega, by simpa using htraversal, hhead, ?_⟩
    simpa using h
  · rintro ⟨hempty, hlong, htraversal, hhead, hall⟩
    unfold fault?
    have hnul : raw.toList.contains '\x00' = false := by
      simpa using fun h => (hsep _ h hall).1 rfl
    have hslash : raw.toList.contains '/' = false := by
      simpa using fun h => (hsep _ h hall).2.1 rfl
    have hback : raw.toList.contains '\\' = false := by
      simpa using fun h => (hsep _ h hall).2.2 rfl
    have hfind : raw.toList.find? (!allows ·) = none := by simpa using hall
    simp only [List.isEmpty_iff, hempty, if_false, Nat.not_lt.mpr hlong, hnul, htraversal, hslash,
      hback, hhead, hfind, Bool.or_self, Bool.false_eq_true, Option.map_none]

-- The grammar of segments, on its own and not as a list of reasons to refuse a text.
structure Grammatical (text : String) : Prop where
  filled : text ≠ ""
  short : text.utf8ByteSize ≤ 255
  characters : ∀ c ∈ text.toList, c.isAlphanum = true ∨ c ∈ ['.', '_', '@', '+', '-']
  visible : text.toList.head? ≠ some '.'
  noDoubleDot : ¬['.', '.'] <:+: text.toList

theorem allows_iff (c : Char) :
    allows c = true ↔ c.isAlphanum = true ∨ c ∈ ['.', '_', '@', '+', '-'] := by
  simp [allows, or_assoc]

theorem hasTraversal_iff_infix (cs : List Char) :
    hasTraversal cs = true ↔ ['.', '.'] <:+: cs := by
  fun_induction hasTraversal cs with
  | case1 rest => exact ⟨fun _ => ⟨[], rest, rfl⟩, fun _ => rfl⟩
  | case2 c rest hne ih =>
      rw [ih, List.infix_cons_iff]
      refine ⟨Or.inr, ?_⟩
      rintro (hfront | hlater)
      · -- two full stops at the front are the other case
        obtain ⟨after, hafter⟩ := hfront
        rw [List.cons_append, List.cons_append, List.nil_append, List.cons.injEq] at hafter
        exact absurd hafter.2.symm (hne after hafter.1.symm)
      · exact hlater
  | case3 => simp

-- What is accepted is exactly what the grammar allows.
theorem fault?_eq_none_iff_grammatical (raw : String) : fault? raw = none ↔ Grammatical raw := by
  rw [fault?_eq_none_iff, ← Bool.not_eq_true, hasTraversal_iff_infix]
  constructor
  · rintro ⟨hfilled, hshort, hdots, hvisible, hall⟩
    refine ⟨?_, hshort, fun c hc => (allows_iff c).mp (hall c hc), hvisible, hdots⟩
    rintro rfl
    exact hfilled rfl
  · rintro ⟨hfilled, hshort, hall, hvisible, hdots⟩
    refine ⟨?_, hshort, hdots, hvisible, fun c hc => (allows_iff c).mpr (hall c hc)⟩
    rwa [ne_eq, String.toList_eq_nil_iff]

variable {role : Coordinate}

theorem grammatical (s : Segment role) : Grammatical s.text :=
  (fault?_eq_none_iff_grammatical s.text).mp s.accepted

theorem toList_ne_nil (s : Segment role) : s.text.toList ≠ [] :=
  ((fault?_eq_none_iff _).mp s.accepted).1

theorem utf8ByteSize_le (s : Segment role) : s.text.utf8ByteSize ≤ maxBytes :=
  ((fault?_eq_none_iff _).mp s.accepted).2.1

theorem hasTraversal_text (s : Segment role) : hasTraversal s.text.toList = false :=
  ((fault?_eq_none_iff _).mp s.accepted).2.2.1

theorem head?_ne_dot (s : Segment role) : s.text.toList.head? ≠ some '.' :=
  ((fault?_eq_none_iff _).mp s.accepted).2.2.2.1

theorem allows_of_mem (s : Segment role) {c : Char} (h : c ∈ s.text.toList) : allows c = true :=
  ((fault?_eq_none_iff _).mp s.accepted).2.2.2.2 c h

theorem not_mem_of_not_allowed (s : Segment role) {c : Char} (h : allows c = false) :
    c ∉ s.text.toList := by
  intro hc
  rw [allows_of_mem s hc] at h
  cases h

theorem text_ne_empty (s : Segment role) : s.text ≠ "" := by
  intro h
  exact toList_ne_nil s (by rw [h]; rfl)

theorem val_le_of_mem (s : Segment role) {c : Char} (h : c ∈ s.text.toList) : c.val ≤ 127 :=
  allows_val_le (allows_of_mem s h)

theorem text_injective : Function.Injective (@Segment.text role) := by
  rintro ⟨s, hs⟩ ⟨t, ht⟩ rfl
  rfl

-- Parsing takes back every text that a segment can have, and no others.
@[simp] theorem parse_text (role : Coordinate) (s : Segment role) : parse role s.text = .ok s := by
  unfold parse
  split
  · rename_i hfault
    rw [s.accepted] at hfault
    cases hfault
  · rfl

theorem parse_eq_ok_iff {raw : String} {s : Segment role} :
    parse role raw = .ok s ↔ s.text = raw := by
  constructor
  · exact text_of_parse
  · rintro rfl
    exact parse_text role s

theorem parse_eq_error_iff {raw : String} {e : SegmentError} :
    parse role raw = .error e ↔ fault? raw = some e := by
  unfold parse
  split
  · rename_i hfault
    rw [hfault, Except.error.injEq, Option.some.injEq]
  · rename_i hnone
    refine ⟨nofun, fun hsome => ?_⟩
    rw [hnone] at hsome
    cases hsome

theorem isBlank_of_allows {c : Char} (h : allows c = true) : Text.isBlank c = false := by
  have hall : ∀ n < 128, allows (Char.ofNat n) = true → Text.isBlank (Char.ofNat n) = false := by
    decide
  have hsmall : c.toNat < 128 := by
    have hval := UInt32.le_iff_toNat_le.mp (allows_val_le h)
    exact Nat.lt_succ_of_le hval
  have hc := hall c.toNat hsmall
  rw [Char.ofNat_toNat] at hc
  exact hc h

theorem not_blank (s : Segment role) : ¬∀ c ∈ s.text.toList, Text.isBlank c = true := by
  intro h
  obtain ⟨c, rest, hcs⟩ := List.exists_cons_of_ne_nil s.toList_ne_nil
  have hc : c ∈ s.text.toList := by rw [hcs]; exact List.mem_cons_self
  have hfilled := isBlank_of_allows (s.allows_of_mem hc)
  rw [h c hc] at hfilled
  cases hfilled

-- As the name of a file a segment is short enough, and is not the way to the directory above.
theorem length_utf8_le (s : Segment role) : (Text.utf8 s.text).length ≤ maxBytes := by
  rw [Text.length_utf8]
  exact utf8ByteSize_le s

theorem text_ne_of_head {raw : String} (s : Segment role) (h : raw.toList.head? = some '.') :
    s.text ≠ raw := by
  rintro rfl
  exact head?_ne_dot s h

-- The first of its bytes is not a full stop either, since every character is one byte.
theorem head?_utf8_ne_dot (s : Segment role) : (Text.utf8 s.text).head? ≠ some 46 := by
  rw [Text.utf8_of_ascii _ fun _ hc => s.val_le_of_mem hc, List.head?_map, ne_eq,
    Option.map_eq_some_iff]
  rintro ⟨c, hc, hbyte⟩
  have hsmall := UInt32.le_iff_toNat_le.mp (s.val_le_of_mem (List.mem_of_head? hc))
  have hval := congrArg UInt8.toNat hbyte
  rw [UInt32.toNat_toUInt8] at hval
  have h127 : (127 : UInt32).toNat = 127 := rfl
  have h46 : (46 : UInt8).toNat = 46 := rfl
  have hdot : c.val.toNat = '.'.val.toNat := by
    have hdot_val : '.'.val.toNat = 46 := rfl
    omega
  have hc_dot : c = '.' := Char.toNat_inj.mp hdot
  exact s.head?_ne_dot (hc_dot ▸ hc)

theorem utf8_ne_of_hidden {name : List UInt8} (s : Segment role) (h : name.head? = some 46) :
    Text.utf8 s.text ≠ name := by
  rintro rfl
  exact s.head?_utf8_ne_dot h

theorem utf8_lt_of_lt {s t : Segment role} (h : s.text < t.text) :
    Text.utf8 s.text < Text.utf8 t.text :=
  Text.utf8_lt_of_ascii (fun _ hc => val_le_of_mem s hc) (fun _ hc => val_le_of_mem t hc) h

end Gallery.Segment
