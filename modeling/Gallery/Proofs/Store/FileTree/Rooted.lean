import Gallery.Proofs.Store.FileTree.Walk
import Mathlib.Data.List.Induction

namespace Gallery.FileTree

-- The path `base` leads to the directory `root`. Below it there are no links, and whatever is
-- there lies in a directory.
structure Rooted (t : FileTree) (base root : FilePath) : Prop where
  leads : t.locate base = .ok (.entry root)
  directory : t.HasDirectory root
  parent : ∀ path name e, t.lookup (root ++ (path ++ [name])) = some e →
    t.HasDirectory (root ++ path)
  noLink : ∀ path target, t.lookup (root ++ path) ≠ some (.link target)

theorem rooted_empty : empty.Rooted [] [] := by
  refine ⟨walk_nil _ _ _ _, ⟨_, rfl⟩, ?_, ?_⟩
  · intro path name e he
    rw [lookup_empty (by simp)] at he
    cases he
  · intro path target he
    by_cases hpath : path = []
    · rw [hpath] at he
      cases he
    · rw [lookup_empty (by simpa using hpath)] at he
      cases he

-- A file stands in the way to some names.
def Obstructed (t : FileTree) (root names : FilePath) : Prop :=
  ∃ before rest content modified, names = before ++ rest ∧ rest ≠ [] ∧
    t.lookup (root ++ before) = some (.file content modified)

theorem Obstructed.append {t : FileTree} {root names : FilePath} (h : t.Obstructed root names)
    (more : FilePath) : t.Obstructed root (names ++ more) := by
  obtain ⟨before, rest, content, modified, hsplit, hrest, hfile⟩ := h
  exact ⟨before, rest ++ more, content, modified, by rw [hsplit, List.append_assoc],
    by simp [hrest], hfile⟩

namespace Rooted

variable {t : FileTree} {base root : FilePath} (h : t.Rooted base root)

include h

theorem ancestor {before rest : FilePath} {e : Entry} (hrest : rest ≠ [])
    (he : t.lookup (root ++ (before ++ rest)) = some e) : t.HasDirectory (root ++ before) := by
  induction rest using List.reverseRecOn generalizing e with
  | nil => exact absurd rfl hrest
  | append_singleton rest name ih =>
      rw [← List.append_assoc before] at he
      obtain ⟨mode, hmode⟩ := h.parent _ _ _ he
      by_cases hr : rest = []
      · subst hr
        rw [List.append_nil] at hmode
        exact ⟨mode, hmode⟩
      · exact ih hr hmode

-- Where there is nothing, there is nothing further down.
theorem lookup_below_none {before : FilePath} (hnone : t.lookup (root ++ before) = none)
    (rest : FilePath) : t.lookup (root ++ (before ++ rest)) = none := by
  by_cases hrest : rest = []
  · rwa [hrest, List.append_nil]
  · by_contra hsome
    obtain ⟨e, he⟩ := Option.ne_none_iff_exists'.mp hsome
    obtain ⟨mode, hmode⟩ := h.ancestor hrest he
    rw [hnone] at hmode
    cases hmode

theorem entry_cases (path : FilePath) :
    t.lookup (root ++ path) = none ∨ t.HasDirectory (root ++ path) ∨
      ∃ content modified, t.lookup (root ++ path) = some (.file content modified) := by
  cases he : t.lookup (root ++ path) with
  | none => exact Or.inl rfl
  | some e =>
      cases e with
      | file content modified => exact Or.inr (Or.inr ⟨content, modified, rfl⟩)
      | directory mode => exact Or.inr (Or.inl ⟨mode, he⟩)
      | link target => exact absurd he (h.noLink path target)

theorem walk_descend (followLast : Bool) (links : Nat) {names : FilePath}
    (hnames : ∀ n ∈ names, ProperName n) (hd : t.HasDirectory (root ++ names)) (rest : FilePath) :
    t.walk followLast links root (names ++ rest) =
      t.walk followLast links (root ++ names) rest := by
  induction names using List.reverseRecOn generalizing rest with
  | nil => simp
  | append_singleton names name ih =>
      obtain ⟨mode, hmode⟩ := hd
      have hproper : ProperName name := hnames name (by simp)
      have hbefore : t.HasDirectory (root ++ names) := h.parent _ _ _ hmode
      rw [List.append_assoc, ih (fun n hn => hnames n (by simp [hn])) hbefore,
        List.singleton_append, walk_into_directory _ _ _ _ hproper, List.append_assoc]
      rw [List.append_assoc]
      exact ⟨mode, hmode⟩

theorem walk_base : ∃ left, ∀ followLast rest, rest ≠ [] →
    t.walk followLast maxLinks [] (base ++ rest) = t.walk followLast left root rest :=
  walk_append h.leads h.directory

variable (followLast : Bool) {before rest : FilePath} {name : FileName}
  (hbefore : ∀ n ∈ before, ProperName n) (hname : ProperName name)

include hbefore hname

theorem walk_found {e : Entry} (he : t.lookup (root ++ (before ++ [name])) = some e) :
    t.walk followLast maxLinks [] (base ++ (before ++ [name])) =
      .ok (.entry (root ++ (before ++ [name]))) := by
  obtain ⟨left, hleft⟩ := h.walk_base
  rw [hleft _ _ (by simp), h.walk_descend _ _ hbefore (h.parent _ _ _ he)]
  rw [← List.append_assoc] at he ⊢
  cases e with
  | file content modified => rw [walk_to_file _ _ _ _ hname he, if_pos rfl]
  | directory mode => rw [walk_into_directory _ _ _ _ hname ⟨mode, he⟩, walk_nil]
  | link target =>
      rw [List.append_assoc] at he
      exact absurd he (h.noLink _ target)

theorem walk_vacant (hd : t.HasDirectory (root ++ before))
    (hnone : t.lookup (root ++ (before ++ [name])) = none) :
    t.walk followLast maxLinks [] (base ++ (before ++ [name])) =
      .ok (.vacant (root ++ (before ++ [name]))) := by
  obtain ⟨left, hleft⟩ := h.walk_base
  rw [hleft _ _ (by simp), h.walk_descend _ _ hbefore hd]
  rw [← List.append_assoc] at hnone ⊢
  rw [walk_to_nothing _ _ _ _ hname hnone, if_pos rfl]

theorem walk_missing (hd : t.HasDirectory (root ++ before))
    (hnone : t.lookup (root ++ (before ++ [name])) = none) (hrest : rest ≠ []) :
    t.walk followLast maxLinks [] (base ++ (before ++ name :: rest)) = .error .noEntry := by
  obtain ⟨left, hleft⟩ := h.walk_base
  rw [hleft _ _ (by simp), h.walk_descend _ _ hbefore hd]
  rw [← List.append_assoc] at hnone
  rw [walk_to_nothing _ _ _ _ hname hnone, if_neg hrest]

theorem walk_obstructed {content : ByteArray} {modified : Instant}
    (hfile : t.lookup (root ++ (before ++ [name])) = some (.file content modified))
    (hrest : rest ≠ []) :
    t.walk followLast maxLinks [] (base ++ (before ++ name :: rest)) = .error .notADirectory := by
  obtain ⟨left, hleft⟩ := h.walk_base
  rw [hleft _ _ (by simp), h.walk_descend _ _ hbefore (h.parent _ _ _ hfile)]
  rw [← List.append_assoc] at hfile
  rw [walk_to_file _ _ _ _ hname hfile, if_neg hrest]

omit followLast hbefore hname in
-- On the way to names that lead to nothing, unless a file is in the way, there is a directory
-- that lacks the next name.
theorem exists_first_gap {names : FilePath} (hnone : t.lookup (root ++ names) = none)
    (hway : ¬t.Obstructed root names) :
    ∃ before name rest, names = before ++ name :: rest ∧ t.HasDirectory (root ++ before) ∧
      t.lookup (root ++ (before ++ [name])) = none := by
  induction names using List.reverseRecOn with
  | nil =>
      obtain ⟨mode, hmode⟩ := h.directory
      rw [List.append_nil, hmode] at hnone
      cases hnone
  | append_singleton names name ih =>
      rcases h.entry_cases names with hn | hd | ⟨content, modified, hf⟩
      · have hway' : ¬t.Obstructed root names := fun ho => hway (ho.append [name])
        obtain ⟨before, gap, rest, rfl, hd, hgap⟩ := ih hn hway'
        exact ⟨before, gap, rest ++ [name], by simp, hd, hgap⟩
      · exact ⟨names, name, [], rfl, hd, hnone⟩
      · exact absurd ⟨names, [name], content, modified, rfl, by simp, hf⟩ hway

end Rooted

-- Where a path below the base leads to, and what it stands for.
namespace Rooted

variable {t : FileTree} {base root : FilePath} (h : t.Rooted base root)
  {names : FilePath} (hnames : ∀ n ∈ names, ProperName n)

include h hnames

theorem locate_found {e : Entry} (he : t.lookup (root ++ names) = some e) :
    t.locate (base ++ names) = .ok (.entry (root ++ names)) := by
  rcases List.eq_nil_or_concat names with rfl | ⟨before, name, rfl⟩
  · rw [List.append_nil, List.append_nil]
    exact h.leads
  · rw [List.concat_eq_append] at hnames he ⊢
    exact h.walk_found true (fun n hn => hnames n (by simp [hn])) (hnames name (by simp)) he

theorem walk_obstructed_names (followLast : Bool) (hway : t.Obstructed root names) :
    t.walk followLast maxLinks [] (base ++ names) = .error .notADirectory := by
  obtain ⟨before, rest, content, modified, rfl, hrest, hfile⟩ := hway
  rcases List.eq_nil_or_concat before with rfl | ⟨first, name, rfl⟩
  · obtain ⟨mode, hmode⟩ := h.directory
    rw [List.append_nil, hmode] at hfile
    cases hfile
  · rw [List.concat_eq_append] at hnames hfile ⊢
    rw [List.append_assoc, List.singleton_append]
    exact h.walk_obstructed followLast (fun n hn => hnames n (by simp [hn]))
      (hnames name (by simp)) hfile hrest

theorem locate_missing (hnone : t.lookup (root ++ names) = none)
    (hway : ¬t.Obstructed root names) :
    t.locate (base ++ names) = .ok (.vacant (root ++ names)) ∨
      t.locate (base ++ names) = .error .noEntry := by
  obtain ⟨before, name, rest, rfl, hd, hgap⟩ := h.exists_first_gap hnone hway
  have hbefore : ∀ n ∈ before, ProperName n := fun n hn => hnames n (by simp [hn])
  have hname : ProperName name := hnames name (by simp)
  by_cases hrest : rest = []
  · subst hrest
    exact Or.inl (h.walk_vacant true hbefore hname hd hnone)
  · exact Or.inr (h.walk_missing true hbefore hname hd hgap hrest)

theorem entryAt_found {e : Entry} (he : t.lookup (root ++ names) = some e) :
    t.entryAt (base ++ names) = .ok e := by
  rw [entryAt, h.locate_found hnames he]
  simp only [he, Option.elim_some]

theorem entryAt_obstructed (hway : t.Obstructed root names) :
    t.entryAt (base ++ names) = .error .notADirectory := by
  rw [entryAt, locate, h.walk_obstructed_names hnames true hway]

theorem entryAt_missing (hnone : t.lookup (root ++ names) = none)
    (hway : ¬t.Obstructed root names) : t.entryAt (base ++ names) = .error .noEntry := by
  rw [entryAt]
  rcases h.locate_missing hnames hnone hway with hl | hl <;> rw [hl]

-- What a path below the base stands for depends on its own place and on the files in its way only.
theorem entryAt_congr {t' : FileTree} (h' : t'.Rooted base root)
    (hlookup : t'.lookup (root ++ names) = t.lookup (root ++ names))
    (hway : t'.Obstructed root names ↔ t.Obstructed root names) :
    t'.entryAt (base ++ names) = t.entryAt (base ++ names) := by
  by_cases ho : t.Obstructed root names
  · rw [h.entryAt_obstructed hnames ho, h'.entryAt_obstructed hnames (hway.mpr ho)]
  · have ho' := mt hway.mp ho
    cases he : t.lookup (root ++ names) with
    | none =>
        rw [h.entryAt_missing hnames he ho, h'.entryAt_missing hnames (hlookup.trans he) ho']
    | some e => rw [h.entryAt_found hnames he, h'.entryAt_found hnames (hlookup.trans he)]

theorem readDirectory_directory (hd : t.HasDirectory (root ++ names)) :
    t.readDirectory (base ++ names) = .ok (t.children (root ++ names)) := by
  obtain ⟨mode, hmode⟩ := hd
  rw [readDirectory, h.locate_found hnames hmode]
  simp only [hmode]

theorem readDirectory_file {content : ByteArray} {modified : Instant}
    (hfile : t.lookup (root ++ names) = some (.file content modified)) :
    t.readDirectory (base ++ names) = .error .notADirectory := by
  rw [readDirectory, h.locate_found hnames hfile]
  simp only [hfile]

theorem readDirectory_obstructed (hway : t.Obstructed root names) :
    t.readDirectory (base ++ names) = .error .notADirectory := by
  rw [readDirectory, locate, h.walk_obstructed_names hnames true hway]

theorem readDirectory_missing (hnone : t.lookup (root ++ names) = none)
    (hway : ¬t.Obstructed root names) : t.readDirectory (base ++ names) = .error .noEntry := by
  rw [readDirectory]
  rcases h.locate_missing hnames hnone hway with hl | hl <;> rw [hl]

end Rooted

-- Where a path leads, be there an entry or not.
def Place.path : Place → FilePath
  | .entry path => path
  | .vacant path => path

namespace Rooted

variable {t : FileTree} {base root : FilePath} (h : t.Rooted base root)
  {names : FilePath} (habove : FilePath.above ∉ names)

include h habove

-- Names that do not lead back up do not lead out of the root, however they are walked.
theorem prefix_of_walk {followLast : Bool} {links : Nat} {before : FilePath} {place : Place}
    (hwalk : t.walk followLast links (root ++ before) names = .ok place) : root <+: place.path := by
  induction names generalizing before with
  | nil =>
      rw [walk_nil] at hwalk
      cases hwalk
      exact List.prefix_append _ _
  | cons name rest ih =>
      obtain ⟨hname, hrest⟩ := List.ne_and_not_mem_of_not_mem_cons habove
      have hbelow : ∀ more, root <+: root ++ before ++ more := fun more => by
        rw [List.append_assoc]
        exact List.prefix_append _ _
      by_cases hlong : maxName < name.length
      · rw [walk, if_neg (Ne.symm hname), if_pos hlong] at hwalk
        cases hwalk
      · have hproper : ProperName name := ⟨Ne.symm hname, Nat.not_lt.mp hlong⟩
        have hentry := h.entry_cases (before ++ [name])
        rw [← List.append_assoc] at hentry
        rcases hentry with hnone | hdirectory | ⟨content, modified, hfile⟩
        · rw [walk_to_nothing _ _ _ _ hproper hnone] at hwalk
          split at hwalk <;> cases hwalk
          exact hbelow [name]
        · rw [walk_into_directory _ _ _ _ hproper hdirectory, List.append_assoc] at hwalk
          exact ih hrest hwalk
        · rw [walk_to_file _ _ _ _ hproper hfile] at hwalk
          split at hwalk <;> cases hwalk
          exact hbelow [name]

theorem prefix_of_locate {place : Place} (hlocate : t.locate (base ++ names) = .ok place) :
    root <+: place.path := by
  by_cases hnames : names = []
  · rw [hnames, List.append_nil, h.leads] at hlocate
    cases hlocate
    exact List.prefix_refl root
  · obtain ⟨left, hleft⟩ := h.walk_base
    rw [locate, hleft _ _ hnames, ← List.append_nil root] at hlocate
    exact h.prefix_of_walk habove hlocate

end Rooted

-- A change at one place below the root leaves the rest as it was, unless it takes a directory
-- away, puts a link there, or puts something where there is no directory to hold it.
theorem Rooted.change_at {t t' : FileTree} {base root before : FilePath} {name : FileName}
    (h : t.Rooted base root)
    (hsame : ∀ other, other ≠ root ++ (before ++ [name]) → t'.lookup other = t.lookup other)
    (hfree : ¬t.HasDirectory (root ++ (before ++ [name])))
    (hlink : ∀ target, t'.lookup (root ++ (before ++ [name])) ≠ some (.link target))
    (hparent : t'.lookup (root ++ (before ++ [name])) ≠ none → t.HasDirectory (root ++ before)) :
    t'.Rooted base root := by
  have hkept : ∀ path, t.HasDirectory path → t'.HasDirectory path := by
    rintro path ⟨mode, hmode⟩
    have hne : path ≠ root ++ (before ++ [name]) := by
      rintro rfl
      exact hfree ⟨mode, hmode⟩
    exact ⟨mode, (hsame path hne).trans hmode⟩
  refine ⟨?_, hkept _ h.directory, ?_, ?_⟩
  · refine walk_kept ?_ h.leads h.directory
    intro path e he hnofile
    by_cases hp : path = root ++ (before ++ [name])
    · subst hp
      cases e with
      | file content modified => exact absurd rfl (hnofile content modified)
      | directory mode => exact absurd ⟨mode, he⟩ hfree
      | link target => exact absurd he (h.noLink _ target)
    · rw [hsame path hp, he]
  · intro path child e he
    by_cases hp : root ++ (path ++ [child]) = root ++ (before ++ [name])
    · have hpath : path = before := List.append_inj_left' (List.append_cancel_left hp) rfl
      rw [hp] at he
      rw [hpath]
      exact hkept _ (hparent (by rw [he]; simp))
    · rw [hsame _ hp] at he
      exact hkept _ (h.parent _ _ _ he)
  · intro path target he
    by_cases hp : root ++ path = root ++ (before ++ [name])
    · rw [hp] at he
      exact hlink target he
    · rw [hsame _ hp] at he
      exact h.noLink path target he

end Gallery.FileTree
