import Gallery.Proofs.Store.FileTree.Rooted

namespace Gallery.FileTree

-- The one tree is the other with directories that were missing on the way to some names.
def Grows (t t' : FileTree) (root names : FilePath) : Prop :=
  ∀ path, t'.lookup path = t.lookup path ∨
    t.lookup path = none ∧ t'.HasDirectory path ∧
      ∃ before rest, names = before ++ rest ∧ path = root ++ before

theorem Grows.refl (t : FileTree) (root names : FilePath) : t.Grows t root names :=
  fun _ => Or.inl rfl

theorem Grows.append {t t' : FileTree} {root names : FilePath} (h : t.Grows t' root names)
    (more : FilePath) : t.Grows t' root (names ++ more) := by
  intro path
  rcases h path with hsame | ⟨hnone, hdir, before, rest, hsplit, hpath⟩
  · exact Or.inl hsame
  · exact Or.inr ⟨hnone, hdir, before, rest ++ more, by rw [hsplit, List.append_assoc], hpath⟩

theorem Grows.trans {t t' t'' : FileTree} {root names : FilePath} (h : t.Grows t' root names)
    (h' : t'.Grows t'' root names) : t.Grows t'' root names := by
  intro path
  rcases h' path with hsame' | ⟨hnone', hnew'⟩
  · rcases h path with hsame | ⟨hnone, hdir, hway⟩
    · exact Or.inl (hsame'.trans hsame)
    · exact Or.inr ⟨hnone, (hasDirectory_congr hsame').mpr hdir, hway⟩
  · rcases h path with hsame | ⟨_, ⟨mode, hmode⟩, _⟩
    · exact Or.inr ⟨hsame.symm.trans hnone', hnew'⟩
    · rw [hnone'] at hmode
      cases hmode

-- What lies deeper than those names is untouched.
theorem Grows.lookup_eq {t t' : FileTree} {root names path : FilePath} (h : t.Grows t' root names)
    (hdeep : names.length < path.length) : t'.lookup (root ++ path) = t.lookup (root ++ path) := by
  rcases h (root ++ path) with hsame | ⟨_, _, before, rest, hsplit, hpath⟩
  · exact hsame
  · have hbefore : path = before := List.append_cancel_left hpath
    rw [hsplit, hbefore, List.length_append] at hdeep
    omega

theorem below_ne_nil (root before : FilePath) (name : FileName) :
    root ++ (before ++ [name]) ≠ [] := by
  simp

theorem not_hasDirectory_of_none {t : FileTree} {path : FilePath} (h : t.lookup path = none) :
    ¬t.HasDirectory path := by
  rintro ⟨mode, hmode⟩
  rw [h] at hmode
  cases hmode

theorem not_hasDirectory_of_file {t : FileTree} {path : FilePath} {content : ByteArray}
    {modified : Instant} (h : t.lookup path = some (.file content modified)) :
    ¬t.HasDirectory path := by
  rintro ⟨mode, hmode⟩
  rw [h] at hmode
  cases hmode

namespace Rooted

variable {t : FileTree} {base root before : FilePath} {name : FileName}

theorem put (h : t.Rooted base root) (hd : t.HasDirectory (root ++ before))
    (hfree : ¬t.HasDirectory (root ++ (before ++ [name]))) {e : Entry}
    (hlink : ∀ target, e ≠ .link target) :
    (t.put (root ++ (before ++ [name])) e).Rooted base root := by
  have hne := below_ne_nil root before name
  refine h.change_at (fun other ho => lookup_put_of_ne t hne e ho) hfree ?_ (fun _ => hd)
  intro target
  rw [lookup_put_self t hne, ne_eq, Option.some.injEq]
  exact hlink target

-- Where there was nothing, any entry but a link can be put into a directory.
theorem put_new (h : t.Rooted base root) (before : FilePath) (name : FileName) (e : Entry)
    (hd : t.HasDirectory (root ++ before)) (hnone : t.lookup (root ++ (before ++ [name])) = none)
    (hlink : ∀ target, e ≠ .link target) :
    (t.put (root ++ (before ++ [name])) e).Rooted base root :=
  h.put hd (not_hasDirectory_of_none hnone) hlink

theorem erase (h : t.Rooted base root) (hfree : ¬t.HasDirectory (root ++ (before ++ [name]))) :
    (t.erase (root ++ (before ++ [name]))).Rooted base root := by
  have hne := below_ne_nil root before name
  have hself := lookup_erase_self t hne
  refine h.change_at (fun other ho => lookup_erase_of_ne t hne ho) hfree ?_ ?_
  · intro target
    rw [hself]
    simp
  · intro hsome
    exact absurd hself hsome

variable (h : t.Rooted base root) (hbefore : ∀ n ∈ before, ProperName n) (hname : ProperName name)

include h hbefore hname

theorem makeDirectory_vacant (hd : t.HasDirectory (root ++ before))
    (hnone : t.lookup (root ++ (before ++ [name])) = none) :
    makeDirectory (base ++ (before ++ [name])) t =
      .ok () (t.put (root ++ (before ++ [name])) (.directory directoryMode)) := by
  rw [makeDirectory, locateLink, h.walk_vacant false hbefore hname hd hnone]

theorem makeDirectory_found {e : Entry} (he : t.lookup (root ++ (before ++ [name])) = some e) :
    makeDirectory (base ++ (before ++ [name])) t = .error .alreadyExists t := by
  rw [makeDirectory, locateLink, h.walk_found false hbefore hname he]

theorem writeFile_free (hd : t.HasDirectory (root ++ before))
    (hfree : ¬t.HasDirectory (root ++ (before ++ [name]))) (content : ByteArray) (now : Instant) :
    writeFile (base ++ (before ++ [name])) content now t =
      .ok () (t.put (root ++ (before ++ [name])) (.file content now)) := by
  rw [writeFile, locate]
  rcases h.entry_cases (before ++ [name]) with hnone | hdir | ⟨held, modified, hfile⟩
  · rw [h.walk_vacant true hbefore hname hd hnone]
  · exact absurd hdir hfree
  · rw [h.walk_found true hbefore hname hfile]
    simp only [hfile]

theorem writeFile_directory (hdir : t.HasDirectory (root ++ (before ++ [name])))
    (content : ByteArray) (now : Instant) :
    writeFile (base ++ (before ++ [name])) content now t = .error .isADirectory t := by
  obtain ⟨mode, hmode⟩ := hdir
  rw [writeFile, locate, h.walk_found true hbefore hname hmode]
  simp only [hmode]

theorem removeFile_file {content : ByteArray} {modified : Instant}
    (hfile : t.lookup (root ++ (before ++ [name])) = some (.file content modified)) :
    removeFile (base ++ (before ++ [name])) t =
      .ok () (t.erase (root ++ (before ++ [name]))) := by
  rw [removeFile, locateLink, h.walk_found false hbefore hname hfile]
  simp only [hfile]

theorem removeFile_directory (hdir : t.HasDirectory (root ++ (before ++ [name]))) :
    removeFile (base ++ (before ++ [name])) t = .error .isADirectory t := by
  obtain ⟨mode, hmode⟩ := hdir
  rw [removeFile, locateLink, h.walk_found false hbefore hname hmode]
  simp only [hmode]

theorem removeFile_missing (hd : t.HasDirectory (root ++ before))
    (hnone : t.lookup (root ++ (before ++ [name])) = none) :
    removeFile (base ++ (before ++ [name])) t = .error .noEntry t := by
  rw [removeFile, locateLink, h.walk_vacant false hbefore hname hd hnone]

variable {target : FileName} (htarget : ProperName target)

include htarget

-- A file moves to any place of its directory that is not a directory itself.
theorem move_free {content : ByteArray} {modified : Instant}
    (hfile : t.lookup (root ++ (before ++ [name])) = some (.file content modified))
    (hfree : ¬t.HasDirectory (root ++ (before ++ [target]))) :
    move (base ++ (before ++ [name])) (base ++ (before ++ [target])) t =
      .ok () ((t.erase (root ++ (before ++ [name]))).put (root ++ (before ++ [target]))
        (.file content modified)) := by
  rw [move, locateLink, locateLink, h.walk_found false hbefore hname hfile]
  rcases h.entry_cases (before ++ [target]) with hnone | hdir | ⟨held, time, hheld⟩
  · rw [h.walk_vacant false hbefore htarget (h.parent _ _ _ hfile) hnone]
    simp only [hfile]
  · exact absurd hdir hfree
  · rw [h.walk_found false hbefore htarget hheld]
    simp only [hfile, hheld]

theorem move_directory {content : ByteArray} {modified : Instant}
    (hfile : t.lookup (root ++ (before ++ [name])) = some (.file content modified))
    (hdir : t.HasDirectory (root ++ (before ++ [target]))) :
    move (base ++ (before ++ [name])) (base ++ (before ++ [target])) t =
      .error .isADirectory t := by
  obtain ⟨mode, hmode⟩ := hdir
  rw [move, locateLink, locateLink, h.walk_found false hbefore hname hfile,
    h.walk_found false hbefore htarget hmode]
  simp only [hfile, hmode]

end Rooted

section MakeDirectories

variable {t : FileTree} {base root : FilePath}

-- Without its parent a directory cannot be made.
theorem Rooted.makeDirectory_missing {before : FilePath} {name : FileName} (h : t.Rooted base root)
    (hnames : ∀ n ∈ before ++ [name], ProperName n)
    (hnone : t.lookup (root ++ (before ++ [name])) = none)
    (hd : ¬t.HasDirectory (root ++ before)) (hway : ¬t.Obstructed root (before ++ [name])) :
    makeDirectory (base ++ (before ++ [name])) t = .error .noEntry t := by
  obtain ⟨first, gap, rest, hsplit, hgd, hgap⟩ := h.exists_first_gap hnone hway
  have hproper : ∀ n ∈ first ++ gap :: rest, ProperName n := hsplit ▸ hnames
  have hrest : rest ≠ [] := by
    rintro rfl
    have hfirst : before = first := List.append_inj_left' hsplit rfl
    exact hd (hfirst ▸ hgd)
  rw [makeDirectory, locateLink, hsplit, h.walk_missing false
    (fun n hn => hproper n (by simp [hn])) (hproper gap (by simp)) hgd hgap hrest]

-- Nothing is in the way to what is there.
theorem Rooted.not_obstructed {names : FilePath} {e : Entry} (h : t.Rooted base root)
    (he : t.lookup (root ++ names) = some e) : ¬t.Obstructed root names := by
  rintro ⟨before, rest, content, modified, rfl, hrest, hfile⟩
  exact not_hasDirectory_of_file hfile (h.ancestor hrest he)

-- The last of the files that can stand in the way is at the place just before the end.
theorem file_of_obstructed {names : FilePath} {last : FileName}
    (hway : t.Obstructed root (names ++ [last])) (hinner : ¬t.Obstructed root names) :
    ∃ content modified, t.lookup (root ++ names) = some (.file content modified) := by
  obtain ⟨first, rest, content, modified, hsplit, hrest, hfile⟩ := hway
  rcases List.eq_nil_or_concat rest with rfl | ⟨init, final, rfl⟩
  · exact absurd rfl hrest
  · rw [List.concat_eq_append, ← List.append_assoc] at hsplit
    have hnames : names = first ++ init := List.append_inj_left' hsplit rfl
    by_cases hinit : init = []
    · rw [hinit, List.append_nil] at hnames
      exact ⟨content, modified, hnames ▸ hfile⟩
    · exact absurd ⟨first, init, content, modified, hnames, hinit, hfile⟩ hinner

section Steps

variable {above : FilePath} {name : FileName} {t' : FileTree}

theorem makeDirectories_of_made (h : makeDirectory (above ++ [name]) t = .ok () t') :
    makeDirectories (above ++ [name]) t = .ok () t' := by
  have hpath : (name :: above.reverse).reverse = above ++ [name] := by simp
  rw [makeDirectories, List.reverse_append, List.reverse_singleton, List.singleton_append,
    makeAllFrom]
  simp only [hpath, h]

theorem makeDirectories_of_kept {e : SystemError}
    (h : makeDirectory (above ++ [name]) t = .error e t') (he : e ≠ .noEntry) :
    makeDirectories (above ++ [name]) t =
      if t'.isDirectory (above ++ [name]) then .ok () t' else .error e t' := by
  have hpath : (name :: above.reverse).reverse = above ++ [name] := by simp
  rw [makeDirectories, List.reverse_append, List.reverse_singleton, List.singleton_append,
    makeAllFrom]
  simp only [hpath, h, if_pos he]

theorem makeDirectories_of_missing (h : makeDirectory (above ++ [name]) t = .error .noEntry t) :
    makeDirectories (above ++ [name]) t =
      match makeDirectories above t with
      | .ok _ t => makeOrKeep (above ++ [name]) t
      | .error e t => .error e t := by
  have hpath : (name :: above.reverse).reverse = above ++ [name] := by simp
  rw [makeDirectories, List.reverse_append, List.reverse_singleton, List.singleton_append,
    makeAllFrom]
  simp only [hpath, h, ne_eq, not_true_eq_false, if_false]
  rfl

end Steps

-- A directory that is put where one was missing.
theorem Rooted.put_directory {before : FilePath} {name : FileName} (h : t.Rooted base root)
    (hd : t.HasDirectory (root ++ before))
    (hnone : t.lookup (root ++ (before ++ [name])) = none) (mode : Nat) :
    (t.put (root ++ (before ++ [name])) (.directory mode)).Rooted base root ∧
      (t.put (root ++ (before ++ [name])) (.directory mode)).HasDirectory
        (root ++ (before ++ [name])) ∧
      t.Grows (t.put (root ++ (before ++ [name])) (.directory mode)) root (before ++ [name]) := by
  have hpne := below_ne_nil root before name
  have hdir : (t.put (root ++ (before ++ [name])) (.directory mode)).HasDirectory
      (root ++ (before ++ [name])) := ⟨mode, lookup_put_self t hpne _⟩
  refine ⟨h.put hd (not_hasDirectory_of_none hnone) (fun _ he => by cases he), hdir,
    fun path => ?_⟩
  by_cases hp : path = root ++ (before ++ [name])
  · subst hp
    exact Or.inr ⟨hnone, hdir, before ++ [name], [], by simp, rfl⟩
  · exact Or.inl (lookup_put_of_ne t hpne _ hp)

-- With no file in the way all that is missing is made, and nothing else is changed.
theorem Rooted.makeDirectories_free {names : FilePath} (h : t.Rooted base root) (hne : names ≠ [])
    (hnames : ∀ n ∈ names, ProperName n) {last : FileName}
    (hway : ¬t.Obstructed root (names ++ [last])) :
    ∃ t', makeDirectories (base ++ names) t = .ok () t' ∧ t'.Rooted base root ∧
      t'.HasDirectory (root ++ names) ∧ t.Grows t' root names := by
  induction names using List.reverseRecOn generalizing last with
  | nil => exact absurd rfl hne
  | append_singleton before name ih =>
      have hbefore : ∀ n ∈ before, ProperName n := fun n hn => hnames n (by simp [hn])
      have hname : ProperName name := hnames name (by simp)
      have hpath : base ++ before ++ [name] = base ++ (before ++ [name]) := List.append_assoc _ _ _
      rw [← List.append_assoc]
      rcases h.entry_cases (before ++ [name]) with hnone | hdir | ⟨content, modified, hfile⟩
      · by_cases hd : t.HasDirectory (root ++ before)
        · -- only the last directory is missing
          have hmade := h.makeDirectory_vacant hbefore hname hd hnone
          rw [← hpath] at hmade
          exact ⟨_, makeDirectories_of_made hmade, h.put_directory hd hnone directoryMode⟩
        · -- the directories above are made first
          have hway' : ¬t.Obstructed root (before ++ [name]) := fun ho => hway (ho.append [last])
          have hbne : before ≠ [] := by
            rintro rfl
            rw [List.append_nil] at hd
            exact hd h.directory
          obtain ⟨t', hmade, hrooted, hmade_dir, hgrows⟩ := ih hbne hbefore hway'
          have hmissing := h.makeDirectory_missing hnames hnone hd hway'
          have hstill : t'.lookup (root ++ (before ++ [name])) = none :=
            (hgrows.lookup_eq (by simp)).trans hnone
          obtain ⟨hrooted', hdir', hgrows'⟩ := hrooted.put_directory hmade_dir hstill directoryMode
          rw [← hpath] at hmissing
          refine ⟨_, ?_, hrooted', hdir', (hgrows.append [name]).trans hgrows'⟩
          rw [makeDirectories_of_missing hmissing, hmade, hpath]
          simp only [makeOrKeep, hrooted.makeDirectory_vacant hbefore hname hmade_dir hstill]
      · obtain ⟨mode, hmode⟩ := hdir
        have hthere : t.isDirectory (base ++ (before ++ [name])) = true := by
          rw [isDirectory, h.entryAt_found hnames hmode]
        have hkept := h.makeDirectory_found hbefore hname hmode
        rw [← hpath] at hkept hthere
        refine ⟨t, ?_, h, ⟨mode, hmode⟩, Grows.refl t root _⟩
        rw [makeDirectories_of_kept hkept (by decide), if_pos hthere]
      · exact absurd ⟨before ++ [name], [last], content, modified, rfl, by simp, hfile⟩ hway

-- A file in the way stays where it is, and so does all else.
theorem Rooted.makeDirectories_obstructed {names : FilePath} (h : t.Rooted base root)
    (hnames : ∀ n ∈ names, ProperName n) {last : FileName}
    (hway : t.Obstructed root (names ++ [last])) :
    ∃ e, makeDirectories (base ++ names) t = .error e t := by
  rcases List.eq_nil_or_concat names with rfl | ⟨before, name, hconcat⟩
  · have hinner : ¬t.Obstructed root [] := by
      rintro ⟨first, rest, _, _, hsplit, hrest, _⟩
      exact hrest (List.append_eq_nil_iff.mp hsplit.symm).2
    obtain ⟨content, modified, hfile⟩ := file_of_obstructed hway hinner
    rw [List.append_nil] at hfile
    exact absurd h.directory (not_hasDirectory_of_file hfile)
  · rw [List.concat_eq_append] at hconcat
    subst hconcat
    have hbefore : ∀ n ∈ before, ProperName n := fun n hn => hnames n (by simp [hn])
    have hname : ProperName name := hnames name (by simp)
    have hpath : base ++ before ++ [name] = base ++ (before ++ [name]) := List.append_assoc _ _ _
    rw [← List.append_assoc]
    by_cases hinner : t.Obstructed root (before ++ [name])
    · have hthere : ¬t.isDirectory (base ++ (before ++ [name])) = true := by
        rw [isDirectory, h.entryAt_obstructed hnames hinner]
        simp
      have hfailed : makeDirectory (base ++ (before ++ [name])) t = .error .notADirectory t := by
        rw [makeDirectory, locateLink, h.walk_obstructed_names hnames false hinner]
      rw [← hpath] at hfailed hthere
      rw [makeDirectories_of_kept hfailed (by decide), if_neg hthere]
      exact ⟨_, rfl⟩
    · obtain ⟨content, modified, hfile⟩ := file_of_obstructed hway hinner
      have hthere : ¬t.isDirectory (base ++ (before ++ [name])) = true := by
        rw [isDirectory, h.entryAt_found hnames hfile]
        simp
      have hkept := h.makeDirectory_found hbefore hname hfile
      rw [← hpath] at hkept hthere
      rw [makeDirectories_of_kept hkept (by decide), if_neg hthere]
      exact ⟨_, rfl⟩

end MakeDirectories

end Gallery.FileTree
