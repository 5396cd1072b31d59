import Gallery.Proofs.Store.FileTree.Changes

namespace Gallery

-- What is asked of the system that keeps a tree of files. Each call may fail on its own account.
structure Machine where
  makeDirectory : FilePath → FileTree.Change Unit
  seesDirectory : FilePath → FileTree → Bool
  createFile : FilePath → Instant → FileTree.Change Unit
  writeFile : FilePath → ByteArray → Instant → FileTree.Change Unit
  syncFile : FilePath → FileTree.Change Unit
  move : FilePath → FilePath → FileTree.Change Unit
  removeFile : FilePath → FileTree.Change Unit

namespace FileTree

-- What cannot be moved or written leaves the tree as it is.
theorem move_error {t t' : FileTree} {source target : FilePath} {e : SystemError}
    (h : move source target t = .error e t') : t' = t := by
  unfold move at h
  split at h
  · cases h
    rfl
  · cases h
    rfl
  · cases h
    rfl
  · dsimp only at h
    split at h
    · cases h
      rfl
    · cases h
      rfl
    · cases h

theorem writeFile_error {t t' : FileTree} {path : FilePath} {content : ByteArray} {now : Instant}
    {e : SystemError} (h : writeFile path content now t = .error e t') : t' = t := by
  unfold writeFile at h
  split at h
  · cases h
    rfl
  · cases h
  · split at h
    · cases h
      rfl
    · cases h

end FileTree

namespace FileTree.Change

-- What is asked is done, or the tree stays as it is.
def DoneOrFailed (c asked : Change Unit) : Prop := ∀ t, c t = asked t ∨ ∃ e, c t = .error e t

-- A file gets its content, or that fails, and then anything may have got into the file.
def WrittenOrFailed (c : Change Unit) (path : FilePath) (content : ByteArray) (now : Instant) :
    Prop :=
  ∀ t, c t = writeFile path content now t ∨
    ∃ e t', c t = .error e t' ∧ (t' = t ∨ ∃ held, writeFile path held now t = .ok () t')

-- The tree that is left has the one property if the change is done, and the other if it fails.
def Ends (c : Change Unit) (t : FileTree) (done failed : FileTree → Prop) : Prop :=
  match c t with
  | .ok _ t' => done t'
  | .error _ t' => failed t'

variable {c : Change Unit} {t t' : FileTree} {done done' failed failed' : FileTree → Prop}

theorem ends_of_ok (h : c t = .ok () t') (hdone : done t') : Ends c t done failed := by
  rw [Ends, h]
  exact hdone

theorem ends_of_error {e : SystemError} (h : c t = .error e t') (hfailed : failed t') :
    Ends c t done failed := by
  rw [Ends, h]
  exact hfailed

theorem Ends.mono (h : Ends c t done failed) (hdone : ∀ t', done t' → done' t')
    (hfailed : ∀ t', failed t' → failed' t') : Ends c t done' failed' := by
  unfold Ends at h ⊢
  cases hrun : c t with
  | ok _ t' =>
      rw [hrun] at h
      exact hdone t' h
  | error e t' =>
      rw [hrun] at h
      exact hfailed t' h

theorem DoneOrFailed.ends {asked : Change Unit} (h : DoneOrFailed c asked)
    (hasked : Ends asked t done failed) (hfailed : failed t) : Ends c t done failed := by
  rcases h t with hrun | ⟨e, hrun⟩
  · rw [Ends, hrun]
    exact hasked
  · exact ends_of_error hrun hfailed

end FileTree.Change

open FileTree (Change ProperName)

namespace Machine

-- A machine does what it is asked or says that it failed, and it can always remove a file.
structure Honest (m : Machine) : Prop where
  makeDirectory : ∀ path, (m.makeDirectory path).DoneOrFailed (FileTree.makeDirectory path)
  seesDirectory : ∀ path t, m.seesDirectory path t = true → t.isDirectory path = true
  createFile : ∀ path now, (m.createFile path now).WrittenOrFailed path ByteArray.empty now
  writeFile : ∀ path content now,
    (m.writeFile path content now).WrittenOrFailed path content now
  syncFile : ∀ path, (m.syncFile path).DoneOrFailed fun t => .ok () t
  move : ∀ source target, (m.move source target).DoneOrFailed (FileTree.move source target)
  removeFile : m.removeFile = FileTree.removeFile

-- A machine on which nothing fails but what cannot be done.
def reliable : Machine where
  makeDirectory := FileTree.makeDirectory
  seesDirectory path t := t.isDirectory path
  createFile path now := FileTree.writeFile path ByteArray.empty now
  writeFile := FileTree.writeFile
  syncFile _ t := .ok () t
  move := FileTree.move
  removeFile := FileTree.removeFile

theorem reliable_honest : reliable.Honest where
  makeDirectory _ _ := Or.inl rfl
  seesDirectory _ _ h := h
  createFile _ _ _ := Or.inl rfl
  writeFile _ _ _ _ := Or.inl rfl
  syncFile _ _ := Or.inl rfl
  move _ _ _ := Or.inl rfl
  removeFile := rfl

-- A directory that is made at a path, unless there is one already.
def makeOrKeep (m : Machine) (path : FilePath) : Change Unit := fun t =>
  match m.makeDirectory path t with
  | .ok _ t => .ok () t
  | .error e t => if m.seesDirectory path t then .ok () t else .error e t

-- The directory whose path is given from its end, and those above it.
def makeAllFrom (m : Machine) : FilePath → Change Unit
  | [] => m.makeOrKeep []
  | name :: above => fun t =>
    let path := (name :: above).reverse
    match m.makeDirectory path t with
    | .ok _ t => .ok () t
    | .error e t =>
      if e ≠ .noEntry then
        if m.seesDirectory path t then .ok () t else .error e t
      else match m.makeAllFrom above t with
        | .ok _ t => m.makeOrKeep path t
        | .error e t => .error e t

def makeDirectories (m : Machine) (path : FilePath) : Change Unit := m.makeAllFrom path.reverse

theorem reliable_makeDirectories : reliable.makeDirectories = FileTree.makeDirectories := by
  have hkeep : reliable.makeOrKeep = FileTree.makeOrKeep := rfl
  have hall : ∀ path, reliable.makeAllFrom path = FileTree.makeAllFrom path := by
    intro path
    induction path with
    | nil => rfl
    | cons name above ih => simp only [makeAllFrom, FileTree.makeAllFrom, ih, hkeep]; rfl
  exact funext fun path => hall path.reverse

section Directories

variable {m : Machine} {t : FileTree} {done failed : FileTree → Prop}

theorem Honest.makeOrKeep_ends (hm : m.Honest) {path : FilePath}
    (hmake : (m.makeDirectory path).Ends t done (· = t))
    (hsees : t.isDirectory path = true → done t) :
    (m.makeOrKeep path).Ends t done (· = t) := by
  unfold Change.Ends at hmake ⊢
  unfold makeOrKeep
  cases hrun : m.makeDirectory path t with
  | ok _ t' =>
      rw [hrun] at hmake
      exact hmake
  | error e t' =>
      rw [hrun] at hmake
      subst hmake
      by_cases hdir : m.seesDirectory path t' = true
      · simpa only [hdir, if_true] using hsees (hm.seesDirectory path t' hdir)
      · simp only [hdir, Bool.false_eq_true, if_false]

-- All that is asked of the calls one after another: the last directory at once, then those above
-- it, then the last again.
theorem Honest.makeAllFrom_cons_ends (hm : m.Honest) {name : FileName} {above : FilePath}
    (hmake : (m.makeDirectory (name :: above).reverse).Ends t done (· = t))
    (hsees : t.isDirectory (name :: above).reverse = true → done t) (hfailed : failed t)
    (habove : (m.makeAllFrom above).Ends t
      (fun t' => (m.makeOrKeep (name :: above).reverse).Ends t' done failed) failed) :
    (m.makeAllFrom (name :: above)).Ends t done failed := by
  unfold Change.Ends at hmake habove ⊢
  simp only [makeAllFrom]
  cases hrun : m.makeDirectory (name :: above).reverse t with
  | ok _ t' =>
      rw [hrun] at hmake
      exact hmake
  | error e t' =>
      rw [hrun] at hmake
      subst hmake
      dsimp only
      by_cases he : e ≠ .noEntry
      · rw [if_pos he]
        by_cases hdir : m.seesDirectory (name :: above).reverse t' = true
        · simpa only [hdir, if_true] using hsees (hm.seesDirectory _ t' hdir)
        · simpa only [hdir, Bool.false_eq_true, if_false] using hfailed
      · rw [if_neg he]
        cases hfirst : m.makeAllFrom above t' with
        | ok _ t'' =>
            rw [hfirst] at habove
            exact habove
        | error e t'' =>
            rw [hfirst] at habove
            exact habove

variable {base root : FilePath} (hm : m.Honest) (h : t.Rooted base root)

include hm h

-- Nothing can be made on the way to the base: it is all there.
theorem Honest.makeDirectory_base {way more : FilePath} (hsplit : base = way ++ more) :
    (m.makeDirectory way).Ends t (fun _ => False) (· = t) := by
  have hleads := h.leads
  rw [hsplit] at hleads
  obtain ⟨found, hfound⟩ := FileTree.walk_prefix hleads
  refine (hm.makeDirectory way).ends (Change.ends_of_error (e := .alreadyExists) ?_ rfl) rfl
  rw [FileTree.makeDirectory, FileTree.locateLink, hfound]

theorem Honest.makeAllFrom_base {way more : FilePath} (hsplit : base = way ++ more) :
    (m.makeAllFrom way.reverse).Ends t (· = t) (· = t) := by
  have hkeep : ∀ {way more : FilePath}, base = way ++ more →
      (m.makeOrKeep way).Ends t (· = t) (· = t) := fun hsplit =>
    hm.makeOrKeep_ends ((hm.makeDirectory_base h hsplit).mono (fun _ hno => hno.elim) fun _ => id)
      fun _ => rfl
  induction way using List.reverseRecOn generalizing more with
  | nil => exact hkeep hsplit
  | append_singleton way name ih =>
      have hpath : (name :: way.reverse).reverse = way ++ [name] := by simp
      rw [List.reverse_append, List.reverse_singleton, List.singleton_append]
      refine hm.makeAllFrom_cons_ends ?_ (fun _ => rfl) rfl ?_
      · rw [hpath]
        exact (hm.makeDirectory_base h hsplit).mono (fun _ hno => hno.elim) fun _ => id
      · have habove : base = way ++ name :: more := by simpa using hsplit
        refine (ih habove).mono ?_ fun _ => id
        rintro _ rfl
        rw [hpath]
        exact hkeep hsplit

end Directories

-- The directory at some names is there, with those above it that were missing.
structure Made (t : FileTree) (base root names : FilePath) (t' : FileTree) : Prop where
  rooted : t'.Rooted base root
  directory : t'.HasDirectory (root ++ names)
  grows : t.Grows t' root names

section Below

variable {t : FileTree} {base root : FilePath} (h : t.Rooted base root)

include h

theorem Made.of_isDirectory {names : FilePath} (hnames : ∀ n ∈ names, ProperName n)
    (hdir : t.isDirectory (base ++ names) = true) : Made t base root names t := by
  refine ⟨h, ?_, FileTree.Grows.refl t root names⟩
  rw [FileTree.isDirectory] at hdir
  rcases h.entry_cases names with hnone | hthere | ⟨content, modified, hfile⟩
  · by_cases hway : t.Obstructed root names
    · rw [h.entryAt_obstructed hnames hway] at hdir
      cases hdir
    · rw [h.entryAt_missing hnames hnone hway] at hdir
      cases hdir
  · exact hthere
  · rw [h.entryAt_found hnames hfile] at hdir
    cases hdir

theorem makeDirectory_ends {before : FilePath} {name : FileName}
    (hnames : ∀ n ∈ before ++ [name], ProperName n) :
    Change.Ends (FileTree.makeDirectory (base ++ (before ++ [name]))) t
      (Made t base root (before ++ [name])) (· = t) := by
  have hbefore : ∀ n ∈ before, ProperName n := fun n hn => hnames n (by simp [hn])
  have hname : ProperName name := hnames name (by simp)
  cases hplace : t.lookup (root ++ (before ++ [name])) with
  | some e => exact Change.ends_of_error (h.makeDirectory_found hbefore hname hplace) rfl
  | none =>
      by_cases hd : t.HasDirectory (root ++ before)
      · obtain ⟨hrooted, hdir, hgrows⟩ := h.put_directory hd hplace FileTree.directoryMode
        exact Change.ends_of_ok (h.makeDirectory_vacant hbefore hname hd hplace)
          ⟨hrooted, hdir, hgrows⟩
      · by_cases hway : t.Obstructed root (before ++ [name])
        · refine Change.ends_of_error (e := .notADirectory) ?_ rfl
          rw [FileTree.makeDirectory, FileTree.locateLink,
            h.walk_obstructed_names hnames false hway]
        · exact Change.ends_of_error (h.makeDirectory_missing hnames hplace hd hway) rfl

-- However far it gets, all that is new are directories on the way that were missing.
theorem Honest.makeDirectories_ends {m : Machine} (hm : m.Honest) {names : FilePath}
    (hnames : ∀ n ∈ names, ProperName n) :
    (m.makeDirectories (base ++ names)).Ends t (Made t base root names)
      fun t' => t'.Rooted base root ∧ t.Grows t' root names := by
  rw [makeDirectories]
  induction names using List.reverseRecOn with
  | nil =>
      have hstay := FileTree.Grows.refl t root []
      rw [List.append_nil]
      refine (hm.makeAllFrom_base h (List.append_nil base).symm).mono ?_ ?_
      · rintro _ rfl
        exact ⟨h, by rw [List.append_nil]; exact h.directory, hstay⟩
      · rintro _ rfl
        exact ⟨h, hstay⟩
  | append_singleton before name ih =>
      have hpath : (name :: (base ++ before).reverse).reverse = base ++ (before ++ [name]) := by
        simp
      have hsplit : (base ++ (before ++ [name])).reverse = name :: (base ++ before).reverse := by
        simp
      have hmake : ∀ {t' : FileTree}, t'.Rooted base root →
          (m.makeDirectory (base ++ (before ++ [name]))).Ends t'
            (Made t' base root (before ++ [name])) (· = t') := fun h' =>
        (hm.makeDirectory _).ends (makeDirectory_ends h' hnames) rfl
      rw [hsplit]
      refine hm.makeAllFrom_cons_ends ?_ ?_ ⟨h, FileTree.Grows.refl t root _⟩ ?_
      · rw [hpath]
        exact hmake h
      · rw [hpath]
        exact Made.of_isDirectory h hnames
      · refine (ih fun n hn => hnames n (by simp [hn])).mono ?_ ?_
        · -- the directories above are there now, and the last is asked for once more
          intro t' hmade
          have hgrown := hmade.grows.append [name]
          rw [hpath]
          refine (hm.makeOrKeep_ends (hmake hmade.rooted)
            (Made.of_isDirectory hmade.rooted hnames)).mono ?_ ?_
          · intro t'' hmade'
            exact ⟨hmade'.rooted, hmade'.directory, hgrown.trans hmade'.grows⟩
          · rintro _ rfl
            exact ⟨hmade.rooted, hgrown⟩
        · intro t' hleft
          exact ⟨hleft.1, hleft.2.append [name]⟩

end Below

end Machine

end Gallery
