import Gallery.Proofs.Except
import Gallery.Proofs.Store.FileTree.Entries

namespace Gallery.FileTree

-- A name that a directory can hold: it is not too long, and does not lead back up.
def ProperName (name : FileName) : Prop := name ≠ FilePath.above ∧ name.length ≤ maxName

instance (name : FileName) : Decidable (ProperName name) :=
  inferInstanceAs (Decidable (_ ∧ _))

section Steps

variable (t : FileTree) (followLast : Bool) (links : Nat) (here : FilePath)

theorem walk_nil : t.walk followLast links here [] = .ok (.entry here) := by
  rw [walk]

theorem walk_into_directory {name : FileName} (hname : ProperName name)
    (h : t.HasDirectory (here ++ [name])) (rest : FilePath) :
    t.walk followLast links here (name :: rest) = t.walk followLast links (here ++ [name]) rest := by
  obtain ⟨mode, hmode⟩ := h
  rw [walk, if_neg hname.1, if_neg (Nat.not_lt.mpr hname.2)]
  simp only [hmode]

theorem walk_to_file {name : FileName} (hname : ProperName name) {content : ByteArray}
    {modified : Instant} (h : t.lookup (here ++ [name]) = some (.file content modified))
    (rest : FilePath) :
    t.walk followLast links here (name :: rest) =
      if rest = [] then .ok (.entry (here ++ [name])) else .error .notADirectory := by
  rw [walk, if_neg hname.1, if_neg (Nat.not_lt.mpr hname.2)]
  simp only [h]

theorem walk_to_nothing {name : FileName} (hname : ProperName name)
    (h : t.lookup (here ++ [name]) = none) (rest : FilePath) :
    t.walk followLast links here (name :: rest) =
      if rest = [] then .ok (.vacant (here ++ [name])) else .error .noEntry := by
  rw [walk, if_neg hname.1, if_neg (Nat.not_lt.mpr hname.2)]
  simp only [h]

omit followLast in
-- A link at the end of a path is an entry of its own, unless it is to be followed.
theorem walk_to_link {name : FileName}
    (hname : ProperName name) {target : FilePath}
    (h : t.lookup (here ++ [name]) = some (.link target)) :
    t.walk false links here [name] = .ok (.entry (here ++ [name])) := by
  rw [walk, if_neg hname.1, if_neg (Nat.not_lt.mpr hname.2)]
  simp only [h, decide_true, Bool.not_false, Bool.and_self, if_true]

end Steps

variable {t t' : FileTree}

-- A path that leads to a directory can be walked first, and then the rest from there. How many
-- links may still be followed depends on the way; a link at the end is on the way now.
theorem walk_append {links : Nat} {here path directory : FilePath}
    (h : t.walk true links here path = .ok (.entry directory)) (hd : t.HasDirectory directory) :
    ∃ left, ∀ followLast rest, rest ≠ [] →
      t.walk followLast links here (path ++ rest) = t.walk followLast left directory rest := by
  generalize htrue : true = follow at h
  fun_induction walk t follow links here path with
  | case1 links here =>
      cases h
      exact ⟨links, fun _ _ _ => rfl⟩
  | case2 links here rest ih =>
      obtain ⟨left, hleft⟩ := ih h
      refine ⟨left, fun followLast more hmore => ?_⟩
      rw [← hleft followLast more hmore, List.cons_append, walk, if_pos rfl]
  | case3 => cases h
  | case4 => cases h
  | case5 => cases h
  | case6 links here name rest habove hlong path mode hlookup ih =>
      obtain ⟨left, hleft⟩ := ih h
      refine ⟨left, fun followLast more hmore => ?_⟩
      rw [← hleft followLast more hmore, List.cons_append,
        walk_into_directory _ _ _ _ ⟨habove, by omega⟩ ⟨mode, hlookup⟩]
  | case7 links here name habove hlong path content modified hlookup =>
      rw [Except.ok.injEq, Place.entry.injEq] at h
      obtain ⟨mode, hmode⟩ := hd
      rw [← h, hlookup] at hmode
      cases hmode
  | case8 => cases h
  | case9 links here name rest habove hlong path target hlookup hlast =>
      subst htrue
      simp at hlast
  | case10 => cases h
  | case11 here name rest habove hlong path target hlookup hlast links ih =>
      obtain ⟨left, hleft⟩ := ih h
      refine ⟨left, fun followLast more hmore => ?_⟩
      rw [← hleft followLast more hmore, List.cons_append, walk, if_neg habove, if_neg hlong]
      simp [path, hlookup, hmore]

-- Whatever lies on a way that leads to an entry is an entry itself, be it a link.
theorem walk_prefix {followLast : Bool} {links : Nat} {here way more last : FilePath}
    (h : t.walk followLast links here (way ++ more) = .ok (.entry last)) :
    ∃ found, t.walk false links here way = .ok (.entry found) := by
  generalize hpath : way ++ more = path at h
  fun_induction walk t followLast links here path generalizing way
  case case1 links here =>
    obtain ⟨rfl, _⟩ := List.append_eq_nil_iff.mp hpath
    exact ⟨here, walk_nil _ _ _ _⟩
  case case2 links here rest ih =>
    rcases List.append_eq_cons_iff.mp hpath with ⟨rfl, _⟩ | ⟨way, rfl, hrest⟩
    · exact ⟨here, walk_nil _ _ _ _⟩
    · rw [walk, if_pos rfl]
      exact ih hrest.symm h
  case case6 links here name rest habove hlong path mode hlookup ih =>
    rcases List.append_eq_cons_iff.mp hpath with ⟨rfl, _⟩ | ⟨way, rfl, hrest⟩
    · exact ⟨here, walk_nil _ _ _ _⟩
    · rw [walk_into_directory _ _ _ _ ⟨habove, by omega⟩ ⟨mode, hlookup⟩]
      exact ih hrest.symm h
  case case7 links here name habove hlong path content modified hlookup =>
    rcases List.append_eq_cons_iff.mp hpath with ⟨rfl, _⟩ | ⟨way, rfl, hrest⟩
    · exact ⟨here, walk_nil _ _ _ _⟩
    · obtain ⟨rfl, _⟩ := List.append_eq_nil_iff.mp hrest.symm
      exact ⟨path, by rw [walk_to_file _ _ _ _ ⟨habove, by omega⟩ hlookup, if_pos rfl]⟩
  case case9 links here name rest habove hlong path target hlookup hlast =>
    rcases List.append_eq_cons_iff.mp hpath with ⟨rfl, _⟩ | ⟨way, rfl, hrest⟩
    · exact ⟨here, walk_nil _ _ _ _⟩
    · have hnil : rest = [] := by simpa using (Bool.and_eq_true_iff.mp hlast).1
      obtain ⟨rfl, _⟩ := List.append_eq_nil_iff.mp (hrest.symm.trans hnil)
      exact ⟨path, walk_to_link _ _ _ ⟨habove, by omega⟩ hlookup⟩
  case case11 here name rest habove hlong path target hlookup hlast links ih =>
    rcases List.append_eq_cons_iff.mp hpath with ⟨rfl, _⟩ | ⟨way, rfl, hrest⟩
    · exact ⟨here, walk_nil _ _ _ _⟩
    · by_cases hway : way = []
      · subst hway
        exact ⟨path, walk_to_link _ _ _ ⟨habove, by omega⟩ hlookup⟩
      · rw [walk, if_neg habove, if_neg hlong]
        simp only [path] at hlookup
        simp only [hlookup, hway, decide_false, Bool.false_and, Bool.false_eq_true, if_false]
        exact ih (by rw [List.append_assoc, ← hrest]) h
  all_goals cases h

-- A way along directories and links is the same in any tree that has kept them.
theorem walk_kept (hkeep : ∀ path e, t.lookup path = some e →
      (∀ content modified, e ≠ .file content modified) → t'.lookup path = some e)
    {links : Nat} {here path directory : FilePath}
    (h : t.walk true links here path = .ok (.entry directory)) (hd : t.HasDirectory directory) :
    t'.walk true links here path = .ok (.entry directory) := by
  generalize true = follow at h
  fun_induction walk t follow links here path with
  | case1 links here =>
      rw [walk_nil, h]
  | case2 links here rest ih =>
      rw [walk, if_pos rfl]
      exact ih h
  | case3 => cases h
  | case4 => cases h
  | case5 => cases h
  | case6 links here name rest habove hlong path mode hlookup ih =>
      rw [walk_into_directory _ _ _ _ ⟨habove, by omega⟩
        ⟨mode, hkeep path _ hlookup (fun _ _ he => by cases he)⟩]
      exact ih h
  | case7 links here name habove hlong path content modified hlookup =>
      rw [Except.ok.injEq, Place.entry.injEq] at h
      obtain ⟨mode, hmode⟩ := hd
      rw [← h, hlookup] at hmode
      cases hmode
  | case8 => cases h
  | case9 links here name rest habove hlong path target hlookup hlast =>
      have hkept := hkeep path _ hlookup (fun _ _ he => by cases he)
      rw [walk, if_neg habove, if_neg hlong]
      simp only [path] at hkept
      simp only [hkept, if_pos hlast]
      exact h
  | case10 => cases h
  | case11 here name rest habove hlong path target hlookup hlast links ih =>
      have hkept := hkeep path _ hlookup (fun _ _ he => by cases he)
      rw [walk, if_neg habove, if_neg hlong]
      simp only [path] at hkept
      simp only [hkept, if_neg hlast]
      exact ih h

-- All that a walk comes through are directories, so if it follows links to the end, it does not
-- stop at one.
theorem walk_ne_link {links : Nat} {here path last target : FilePath}
    (hhere : ∀ before, before <+: here → t.HasDirectory before)
    (h : t.walk true links here path = .ok (.entry last)) :
    t.lookup last ≠ some (.link target) := by
  generalize htrue : true = follow at h
  fun_induction walk t follow links here path with
  | case1 links here =>
      cases h
      obtain ⟨mode, hmode⟩ := hhere last (List.prefix_refl last)
      rw [hmode]
      nofun
  | case2 links here rest ih =>
      exact ih (fun before hbefore => hhere before (hbefore.trans (List.dropLast_prefix here))) h
  | case3 => cases h
  | case4 => cases h
  | case5 => cases h
  | case6 links here name rest habove hlong path mode hlookup ih =>
      refine ih (fun before hbefore => ?_) h
      rcases List.prefix_concat_iff.mp hbefore with rfl | hbefore
      · exact ⟨mode, hlookup⟩
      · exact hhere before hbefore
  | case7 links here name habove hlong path content modified hlookup =>
      rw [Except.ok.injEq, Place.entry.injEq] at h
      rw [← h, hlookup]
      nofun
  | case8 => cases h
  | case9 links here name rest habove hlong path target hlookup hlast =>
      subst htrue
      simp at hlast
  | case10 => cases h
  | case11 here name rest habove hlong path target hlookup hlast links ih =>
      refine ih (fun before hbefore => ?_) h
      rw [List.prefix_nil.mp hbefore]
      exact ⟨directoryMode, rfl⟩

-- So what a path stands for is a file or a directory.
theorem entryAt_cases {path : FilePath} {e : Entry} (h : t.entryAt path = .ok e) :
    (∃ content modified, e = .file content modified) ∨ ∃ mode, e = .directory mode := by
  unfold entryAt at h
  cases hlocate : t.locate path with
  | error e =>
      rw [hlocate] at h
      cases h
  | ok place =>
      rw [hlocate] at h
      cases place with
      | vacant path => cases h
      | entry last =>
          have hlookup := Except.eq_some_of_elim_eq_ok h
          have hroot : ∀ before, before <+: [] → t.HasDirectory before := fun before hbefore => by
            rw [List.prefix_nil.mp hbefore]
            exact ⟨directoryMode, rfl⟩
          cases e with
          | file content modified => exact Or.inl ⟨content, modified, rfl⟩
          | directory mode => exact Or.inr ⟨mode, rfl⟩
          | link target => exact absurd hlookup (walk_ne_link hroot hlocate)

end Gallery.FileTree
