import Gallery.Store.FileTree
import Mathlib.Data.List.Basic

namespace Gallery

section Order

-- The order of paths by their names is the one that maps of paths go by.
theorem compare_append_left {α : Type} [Ord α] [Std.ReflOrd α] (xs ys zs : List α) :
    compare (xs ++ ys) (xs ++ zs) = compare ys zs := by
  induction xs with
  | nil => rfl
  | cons x xs ih =>
      rw [List.cons_append, List.cons_append, List.compare_eq_compareLex,
        List.compareLex_cons_cons, Std.ReflOrd.compare_self]
      exact ih

theorem lt_of_compare_eq_lt {xs ys : List UInt8} (h : compare xs ys = .lt) : xs < ys := by
  induction xs generalizing ys with
  | nil =>
      cases ys with
      | nil => cases h
      | cons y ys => exact List.nil_lt_cons _ _
  | cons x xs ih =>
      cases ys with
      | nil => cases h
      | cons y ys =>
          rw [List.compare_eq_compareLex, List.compareLex_cons_cons, Ordering.then_eq_lt] at h
          rw [List.cons_lt_cons_iff]
          rcases h with h | ⟨heq, h⟩
          · exact Or.inl (Std.compare_eq_lt.mp h)
          · exact Or.inr ⟨Std.LawfulEqOrd.eq_of_compare heq, ih h⟩

end Order

namespace FileTree

variable (t : FileTree)

theorem lookup_of_ne {path : FilePath} (h : path ≠ []) : t.lookup path = t.entries[path]? :=
  if_neg h

theorem lookup_empty {path : FilePath} (h : path ≠ []) : empty.lookup path = none := by
  rw [lookup_of_ne _ h, empty, Std.ExtTreeMap.getElem?_empty]

theorem lookup_put {path : FilePath} (h : path ≠ []) (e : Entry) (other : FilePath) :
    (t.put path e).lookup other = if other = path then some e else t.lookup other := by
  by_cases ho : other = []
  · subst ho
    rw [if_neg (Ne.symm h)]
    rfl
  · rw [lookup_of_ne _ ho, lookup_of_ne _ ho, put, Std.ExtTreeMap.getElem?_insert]
    simp only [Std.LawfulEqOrd.compare_eq_iff_eq, @eq_comm _ path other]

theorem lookup_put_self {path : FilePath} (h : path ≠ []) (e : Entry) :
    (t.put path e).lookup path = some e := by
  rw [lookup_put t h, if_pos rfl]

theorem lookup_put_of_ne {path other : FilePath} (h : path ≠ []) (e : Entry) (hne : other ≠ path) :
    (t.put path e).lookup other = t.lookup other := by
  rw [lookup_put t h, if_neg hne]

theorem lookup_erase {path : FilePath} (h : path ≠ []) (other : FilePath) :
    (t.erase path).lookup other = if other = path then none else t.lookup other := by
  by_cases ho : other = []
  · subst ho
    rw [if_neg (Ne.symm h)]
    rfl
  · rw [lookup_of_ne _ ho, lookup_of_ne _ ho, erase, Std.ExtTreeMap.getElem?_erase]
    simp only [Std.LawfulEqOrd.compare_eq_iff_eq, @eq_comm _ path other]

theorem lookup_erase_self {path : FilePath} (h : path ≠ []) : (t.erase path).lookup path = none := by
  rw [lookup_erase t h, if_pos rfl]

theorem lookup_erase_of_ne {path other : FilePath} (h : path ≠ []) (hne : other ≠ path) :
    (t.erase path).lookup other = t.lookup other := by
  rw [lookup_erase t h, if_neg hne]

-- An entry that is put and then erased again leaves all others as they were.
theorem lookup_erase_put_of_ne {path other : FilePath} (h : path ≠ []) (e : Entry)
    (hne : other ≠ path) : ((t.put path e).erase path).lookup other = t.lookup other := by
  rw [lookup_erase_of_ne _ h hne, lookup_put_of_ne _ h e hne]

-- Of two entries that are put in one place the second stays.
theorem put_put (path : FilePath) (e e' : Entry) : (t.put path e).put path e' = t.put path e' := by
  have h : (t.entries.insert path e).insert path e' = t.entries.insert path e' := by
    refine Std.ExtTreeMap.ext_getElem? fun other => ?_
    simp only [Std.ExtTreeMap.getElem?_insert]
    split <;> rfl
  exact congrArg FileTree.mk h

def HasDirectory (path : FilePath) : Prop := ∃ mode, t.lookup path = some (.directory mode)

theorem hasDirectory_congr {t t' : FileTree} {path : FilePath}
    (h : t'.lookup path = t.lookup path) : t'.HasDirectory path ↔ t.HasDirectory path := by
  rw [HasDirectory, HasDirectory, h]

-- When an entry counts as a child, in the form in which the definition asks it.
private theorem child_eq_some_iff (directory path : FilePath) (e : Entry) (child : FileName × Entry) :
    (match path.getLast? with
      | some name => if path.dropLast = directory then some (name, e) else none
      | none => none) = some child ↔ path = directory ++ [child.1] ∧ e = child.2 := by
  constructor
  · intro h
    split at h
    · rename_i name hlast
      split at h
      · rename_i hparent
        cases h
        rw [← hparent, List.dropLast_append_getLast? name hlast]
        exact ⟨rfl, rfl⟩
      · cases h
    · cases h
  · rintro ⟨rfl, rfl⟩
    simp

theorem mem_children_iff (directory : FilePath) (name : FileName) (e : Entry) :
    (name, e) ∈ t.children directory ↔ t.lookup (directory ++ [name]) = some e := by
  have hne : directory ++ [name] ≠ [] := by simp
  rw [lookup_of_ne t hne, ← Std.ExtTreeMap.mem_toList_iff_getElem?_eq_some, children,
    List.mem_filterMap]
  constructor
  · rintro ⟨⟨path, found⟩, hmem, hchild⟩
    obtain ⟨rfl, rfl⟩ := (child_eq_some_iff directory path found _).mp hchild
    exact hmem
  · intro hmem
    exact ⟨_, hmem, (child_eq_some_iff directory _ e (name, e)).mpr ⟨rfl, rfl⟩⟩

-- A directory is read in the order of the names in it.
theorem children_sorted (directory : FilePath) :
    (t.children directory).Pairwise fun a b => a.1 < b.1 := by
  refine List.Pairwise.filterMap _ ?_ (Std.ExtTreeMap.ordered_keys_toList (t := t.entries))
  rintro ⟨path, e⟩ ⟨path', e'⟩ hlt child hchild child' hchild'
  obtain ⟨hpath, _⟩ := (child_eq_some_iff directory path e child).mp hchild
  obtain ⟨hpath', _⟩ := (child_eq_some_iff directory path' e' child').mp hchild'
  simp only at hlt
  rw [hpath, hpath', compare_append_left, List.compare_eq_compareLex, List.compareLex_cons_cons,
    List.compareLex_nil_nil, Ordering.then_eq] at hlt
  exact lt_of_compare_eq_lt hlt

end FileTree

end Gallery
