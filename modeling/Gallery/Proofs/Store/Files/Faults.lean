import Gallery.Proofs.Store.FileTree.Faults
import Gallery.Proofs.Store.Files.Listing
import Gallery.Proofs.Store.Frame

namespace Gallery

open FileTree (Change ProperName)

namespace FileStore

-- A call of the system, and the error that its failure becomes.
structure Call where
  change : Change Unit
  onError : SystemError → StoreError

-- Calls one after another, up to the first that fails.
def runCalls : List Call → FileStore → Except StoreError Unit × FileStore
  | [], s => (.ok (), s)
  | call :: rest, s =>
    match s.change call.change call.onError with
    | (.ok _, s) => runCalls rest s
    | (.error e, s) => (.error e, s)

section Calls

variable (m : Machine) (s : FileStore) (pieces hidden : List String) (file : ByteArray)
  (now : Instant)

-- The calls that get a file to a hidden path.
def draftCalls : List Call :=
  [⟨m.createFile (s.path hidden) now, fun e =>
      .backend ("Failed to create file " ++ s.shownPath hidden ++ ": " ++ e.message)⟩,
    ⟨m.writeFile (s.path hidden) file now, fun e =>
      .backend ("Failed to write file " ++ s.shownPath hidden ++ ": " ++ e.message)⟩,
    ⟨m.syncFile (s.path hidden), fun e =>
      .backend ("Failed to sync file " ++ s.shownPath hidden ++ ": " ++ e.message)⟩]

-- The call that moves it into its place.
def moveCall : Call :=
  ⟨m.move (s.path hidden) (s.path pieces), fun e =>
    .backend ("Failed to move " ++ s.shownPath pieces ++ " into place: " ++ e.message)⟩

-- Writes a file at the hidden path and moves it into its place, as far as the machine gets.
def writeAndMoveOn : Except StoreError Unit × FileStore :=
  match runCalls (draftCalls m s hidden file now ++ [moveCall m s pieces hidden]) s with
  | (.ok _, s) => (.ok (), s)
  | (.error e, s) => (.error e, (s.change (m.removeFile (s.path hidden)) .system).2)

end Calls

-- Keeps an image at an address, on a machine on which any call may fail.
def putOn (m : Machine) (s : FileStore) (address : ImageAddress) (content : ByteArray)
    (contentType : String) (now : Instant) (random : Uuid) : Except StoreError Unit × FileStore :=
  match locateKey address.key with
  | .error e => (.error e, s)
  | .ok pieces =>
    match s.change (m.makeDirectories (s.path pieces.dropLast)) .system with
    | (.error e, s) => (.error e, s)
    | (.ok _, s) =>
      match Envelope.encode contentType content with
      | none =>
        (.error (.backend ("Content type too long: " ++ toString contentType.utf8ByteSize)), s)
      | some file => s.writeAndMoveOn m pieces (pieces.dropLast ++ [hiddenName random]) file now

-- Something may have got into a file at a hidden path where there is no directory. Nothing else
-- has changed.
structure Drafted (t : FileTree) (base root hidden : FilePath) (t' : FileTree) : Prop where
  rooted : t'.Rooted base root
  atHidden : t'.lookup hidden = t.lookup hidden ∨
    ¬t.HasDirectory hidden ∧ ∃ content modified, t'.lookup hidden = some (.file content modified)
  elsewhere : ∀ path, path ≠ hidden → t'.lookup path = t.lookup path

-- What was in a file at a hidden path is gone with it. Nothing else has changed.
structure Cleared (t : FileTree) (base root hidden : FilePath) (t' : FileTree) : Prop where
  rooted : t'.Rooted base root
  atHidden : t'.lookup hidden = t.lookup hidden ∨
    ¬t.HasDirectory hidden ∧ t'.lookup hidden = none
  elsewhere : ∀ path, path ≠ hidden → t'.lookup path = t.lookup path

theorem Cleared.refl {t : FileTree} {base root : FilePath} (h : t.Rooted base root)
    (hidden : FilePath) : Cleared t base root hidden t := ⟨h, Or.inl rfl, fun _ _ => rfl⟩

section Steps

variable {t t' : FileTree} {base root before : FilePath} {hidden : FileName}
  (hbefore : ∀ n ∈ before, ProperName n) (hhidden : ProperName hidden)
  (hdraft : Drafted t base root (root ++ (before ++ [hidden])) t')

  (hd : t.HasDirectory (root ++ before))

include hdraft hd

theorem Drafted.hasDirectory : t'.HasDirectory (root ++ before) :=
  (FileTree.hasDirectory_congr (hdraft.elsewhere _ (by simp))).mpr hd

include hbefore hhidden

theorem Drafted.writeFile_ends (held : ByteArray) (now : Instant) :
    Change.Ends (FileTree.writeFile (base ++ (before ++ [hidden])) held now) t'
      (Drafted t base root (root ++ (before ++ [hidden])))
      (Drafted t base root (root ++ (before ++ [hidden]))) := by
  have hd' := hdraft.hasDirectory hd
  by_cases hblocked : t'.HasDirectory (root ++ (before ++ [hidden]))
  · exact Change.ends_of_error
      (hdraft.rooted.writeFile_directory hbefore hhidden hblocked held now) hdraft
  have hpne := FileTree.below_ne_nil root before hidden
  have hfree : ¬t.HasDirectory (root ++ (before ++ [hidden])) := by
    rcases hdraft.atHidden with hsame | ⟨hfree, _⟩
    · exact mt (FileTree.hasDirectory_congr hsame).mpr hblocked
    · exact hfree
  refine Change.ends_of_ok
    (hdraft.rooted.writeFile_free hbefore hhidden hd' hblocked held now)
    ⟨hdraft.rooted.put hd' hblocked (fun _ he => by cases he),
      Or.inr ⟨hfree, held, now, FileTree.lookup_put_self t' hpne _⟩, fun path hp => ?_⟩
  rw [FileTree.lookup_put_of_ne t' hpne _ hp, hdraft.elsewhere path hp]

theorem Drafted.written_ends {c : Change Unit} {content : ByteArray} {now : Instant}
    (hc : c.WrittenOrFailed (base ++ (before ++ [hidden])) content now) :
    c.Ends t' (Drafted t base root (root ++ (before ++ [hidden])))
      (Drafted t base root (root ++ (before ++ [hidden]))) := by
  have hwrite := fun held => hdraft.writeFile_ends hbefore hhidden hd held now
  rcases hc t' with hrun | ⟨e, t'', hrun, rfl | ⟨held, hheld⟩⟩
  · have hends := hwrite content
    rw [Change.Ends, ← hrun] at hends
    exact hends
  · exact Change.ends_of_error hrun hdraft
  · have hends := hwrite held
    rw [Change.Ends, hheld] at hends
    exact Change.ends_of_error hrun hends

theorem Drafted.removeFile_ends :
    Change.Ends (FileTree.removeFile (base ++ (before ++ [hidden]))) t'
      (Cleared t base root (root ++ (before ++ [hidden])))
      (Cleared t base root (root ++ (before ++ [hidden]))) := by
  have hpne := FileTree.below_ne_nil root before hidden
  have hstay : (∀ content modified,
      t'.lookup (root ++ (before ++ [hidden])) ≠ some (.file content modified)) →
      Cleared t base root (root ++ (before ++ [hidden])) t' := fun hno =>
    ⟨hdraft.rooted, Or.inl (hdraft.atHidden.resolve_right
      fun ⟨_, content, modified, hfile⟩ => hno content modified hfile), hdraft.elsewhere⟩
  rcases hdraft.rooted.entry_cases (before ++ [hidden]) with
    hnone | hdir | ⟨content, modified, hfile⟩
  · refine Change.ends_of_error
      (hdraft.rooted.removeFile_missing hbefore hhidden (hdraft.hasDirectory hd) hnone) (hstay ?_)
    simp [hnone]
  · exact Change.ends_of_error (hdraft.rooted.removeFile_directory hbefore hhidden hdir)
      (hstay fun _ _ hfile => FileTree.not_hasDirectory_of_file hfile hdir)
  · have hheld := FileTree.not_hasDirectory_of_file hfile
    have hfree : ¬t.HasDirectory (root ++ (before ++ [hidden])) := by
      rcases hdraft.atHidden with hsame | ⟨hfree, _⟩
      · exact mt (FileTree.hasDirectory_congr hsame).mpr hheld
      · exact hfree
    refine Change.ends_of_ok (hdraft.rooted.removeFile_file hbefore hhidden hfile)
      ⟨hdraft.rooted.erase hheld, Or.inr ⟨hfree, FileTree.lookup_erase_self t' hpne⟩,
        fun path hp => ?_⟩
    rw [FileTree.lookup_erase_of_ne t' hpne hp, hdraft.elsewhere path hp]

end Steps

theorem change_ends {s : FileStore} {c : Change Unit} {done failed : FileTree → Prop}
    (h : c.Ends s.tree done failed) (onError : SystemError → StoreError) :
    ∃ t', s.change c onError = (.ok (), { s with tree := t' }) ∧ done t' ∨
      ∃ e, s.change c onError = (.error e, { s with tree := t' }) ∧ failed t' := by
  unfold Change.Ends at h
  unfold change
  cases hrun : c s.tree with
  | ok _ t' =>
      rw [hrun] at h
      exact ⟨t', Or.inl ⟨rfl, h⟩⟩
  | error e t' =>
      rw [hrun] at h
      exact ⟨t', Or.inr ⟨_, rfl, h⟩⟩

-- What every call keeps, and the last one if it fails, holds after all runs that fail.
theorem runCalls_failed {kept : FileTree → Prop} {calls : List Call} {last : Call}
    (hcalls : ∀ call ∈ calls, ∀ t, kept t → call.change.Ends t kept kept)
    (hlast : ∀ t, kept t → last.change.Ends t (fun _ => True) kept)
    (s : FileStore) (h : kept s.tree) :
    ∃ result t', runCalls (calls ++ [last]) s = (result, { s with tree := t' }) ∧
      (result ≠ .ok () → kept t') := by
  induction calls generalizing s with
  | nil =>
      obtain ⟨t', ⟨hrun, _⟩ | ⟨e, hrun, hkept⟩⟩ := change_ends (hlast _ h) last.onError
      · exact ⟨.ok (), t', by simp only [List.nil_append, runCalls, hrun], fun hne => absurd rfl hne⟩
      · exact ⟨.error e, t', by simp only [List.nil_append, runCalls, hrun], fun _ => hkept⟩
  | cons call calls ih =>
      obtain ⟨t', ⟨hrun, hkept⟩ | ⟨e, hrun, hkept⟩⟩ :=
        change_ends (hcalls call (by simp) _ h) call.onError
      · obtain ⟨result, t'', hrest, hfailed⟩ :=
          ih (fun c hc => hcalls c (by simp [hc])) { s with tree := t' } hkept
        exact ⟨result, t'', by simp only [List.cons_append, runCalls, hrun, hrest], hfailed⟩
      · exact ⟨.error e, t', by simp only [List.cons_append, runCalls, hrun], fun _ => hkept⟩

section WriteAndMove

variable {m : Machine} (hm : m.Honest) {s : FileStore} {root before : FilePath} {hidden : FileName}
  (pieces hiddenPieces : List String)
  (h : s.tree.Rooted (FilePath.ofString s.base) root)
  (hbefore : ∀ n ∈ before, ProperName n) (hhidden : ProperName hidden)
  (hd : s.tree.HasDirectory (root ++ before))
  (hhiddenPath : s.path hiddenPieces = FilePath.ofString s.base ++ (before ++ [hidden]))
  (file : ByteArray) (now : Instant)

include hm h hbefore hhidden hd hhiddenPath

-- Whichever call it is that fails, the hidden file is gone after that.
theorem writeAndMoveOn_failed :
    ∃ result t', s.writeAndMoveOn m pieces hiddenPieces file now =
        (result, { s with tree := t' }) ∧
      (result ≠ .ok () → Cleared s.tree (FilePath.ofString s.base) root
        (root ++ (before ++ [hidden])) t') := by
  have hstart : Drafted s.tree (FilePath.ofString s.base) root (root ++ (before ++ [hidden]))
      s.tree := ⟨h, Or.inl rfl, fun _ _ => rfl⟩
  have hdrafting : ∀ call ∈ draftCalls m s hiddenPieces file now, ∀ t,
      Drafted s.tree (FilePath.ofString s.base) root (root ++ (before ++ [hidden])) t →
      call.change.Ends t
        (Drafted s.tree (FilePath.ofString s.base) root (root ++ (before ++ [hidden])))
        (Drafted s.tree (FilePath.ofString s.base) root (root ++ (before ++ [hidden]))) := by
    intro call hcall t hdraft
    simp only [draftCalls, List.mem_cons, List.not_mem_nil, or_false, hhiddenPath] at hcall
    rcases hcall with rfl | rfl | rfl
    · exact hdraft.written_ends hbefore hhidden hd (hm.createFile _ now)
    · exact hdraft.written_ends hbefore hhidden hd (hm.writeFile _ file now)
    · exact (hm.syncFile _).ends (Change.ends_of_ok rfl hdraft) hdraft
  have hmoving : ∀ t,
      Drafted s.tree (FilePath.ofString s.base) root (root ++ (before ++ [hidden])) t →
      (moveCall m s pieces hiddenPieces).change.Ends t (fun _ => True)
        (Drafted s.tree (FilePath.ofString s.base) root (root ++ (before ++ [hidden]))) := by
    intro t hdraft
    refine (hm.move _ _).ends ?_ hdraft
    cases hrun : FileTree.move (s.path hiddenPieces) (s.path pieces) t with
    | ok _ t' => exact Change.ends_of_ok hrun trivial
    | error e t' => exact Change.ends_of_error hrun (FileTree.move_error hrun ▸ hdraft)
  obtain ⟨result, t', hrun, hfailed⟩ := runCalls_failed hdrafting hmoving s hstart
  cases result with
  | ok _ => exact ⟨.ok (), t', by rw [writeAndMoveOn, hrun], fun hne => absurd rfl hne⟩
  | error e =>
      have hremove := (hfailed (by simp)).removeFile_ends hbefore hhidden hd
      rw [← hhiddenPath, ← hm.removeFile] at hremove
      obtain ⟨t'', ⟨hremoved, hcleared⟩ | ⟨e', hremoved, hcleared⟩⟩ :=
        change_ends (s := { s with tree := t' }) hremove .system
      · refine ⟨.error e, t'', ?_, fun _ => hcleared⟩
        simp only [writeAndMoveOn, hrun, path_of_tree, hremoved]
      · refine ⟨.error e, t'', ?_, fun _ => hcleared⟩
        simp only [writeAndMoveOn, hrun, path_of_tree, hremoved]

end WriteAndMove

section WriteAndMoveReliable

variable {s : FileStore} {root before : FilePath} {hidden : FileName}
  (pieces hiddenPieces : List String)
  (h : s.tree.Rooted (FilePath.ofString s.base) root)
  (hbefore : ∀ n ∈ before, ProperName n) (hhidden : ProperName hidden)
  (hd : s.tree.HasDirectory (root ++ before))
  (hhiddenPath : s.path hiddenPieces = FilePath.ofString s.base ++ (before ++ [hidden]))
  (file : ByteArray) (now : Instant)

include h hbefore hhidden hd hhiddenPath

-- A file that is made empty and then written is one that is written at once.
theorem writeAndMoveOn_reliable :
    s.writeAndMoveOn .reliable pieces hiddenPieces file now =
      s.writeAndMove pieces hiddenPieces file now := by
  by_cases hblocked : s.tree.HasDirectory (root ++ (before ++ [hidden]))
  · simp only [writeAndMoveOn, writeAndMove, draftCalls, moveCall, runCalls, Machine.reliable,
      change, hhiddenPath, h.writeFile_directory hbefore hhidden hblocked, List.cons_append]
  · have hpne := FileTree.below_ne_nil root before hidden
    have hcreated := h.put hd hblocked (e := .file ByteArray.empty now) (fun _ he => by cases he)
    have hself := FileTree.lookup_put_self s.tree hpne (.file ByteArray.empty now)
    have hd' := (FileTree.hasDirectory_congr
      (FileTree.lookup_put_of_ne s.tree hpne (.file ByteArray.empty now) (by simp))).mpr hd
    simp only [writeAndMoveOn, writeAndMove, draftCalls, moveCall, runCalls, Machine.reliable,
      change, path_of_tree, hhiddenPath, h.writeFile_free hbefore hhidden hd hblocked,
      hcreated.writeFile_free hbefore hhidden hd' (FileTree.not_hasDirectory_of_file hself),
      FileTree.put_put, List.cons_append, List.nil_append]
    cases FileTree.move (FilePath.ofString s.base ++ (before ++ [hidden])) (s.path pieces)
      (s.tree.put (root ++ (before ++ [hidden])) (.file file now)) <;> rfl

end WriteAndMoveReliable

section Put

variable {m : Machine} (hm : m.Honest) {s : FileStore} {root : FilePath}
  (h : s.tree.Rooted (FilePath.ofString s.base) root) (a : ImageAddress) (content : ByteArray)
  (contentType : String) (now : Instant) (random : Uuid)

-- On a reliable machine an image is kept as it is without a thought of faults.
theorem putOn_reliable (h : s.tree.Rooted (FilePath.ofString s.base) root) :
    s.putOn .reliable a content contentType now random =
      s.put a content contentType now random := by
  have hmade := Machine.reliable_honest.makeDirectories_ends h a.parent.properName
  rw [Machine.reliable_makeDirectories] at hmade
  unfold putOn put
  simp only [locateKey_key, List.dropLast, path_parent, Machine.reliable_makeDirectories]
  obtain ⟨grown, ⟨hrun, hgrown⟩ | ⟨e, hrun, _⟩⟩ := change_ends hmade .system
  · simp only [hrun]
    cases Envelope.encode contentType content with
    | none => rfl
    | some file =>
        exact writeAndMoveOn_reliable (s := { s with tree := grown }) _ _ hgrown.rooted
          a.parent.properName (properName_hiddenName random) hgrown.directory rfl file now
  · simp only [hrun]

include hm h

-- A run that fails has made directories, at most, and taken the hidden file away again.
theorem putOn_failed :
    ∃ result t', s.putOn m a content contentType now random = (result, { s with tree := t' }) ∧
      (result ≠ .ok () → ∃ grown, s.tree.Grows grown root a.parent.names ∧
        Cleared grown (FilePath.ofString s.base) root (root ++ a.hiddenNames random) t') := by
  have hmade := hm.makeDirectories_ends h a.parent.properName
  rw [← path_parent] at hmade
  obtain ⟨grown, ⟨hrun, hgrown⟩ | ⟨e, hrun, hrooted, hgrows⟩⟩ := change_ends hmade .system
  · cases hfile : Envelope.encode contentType content with
    | none =>
        refine ⟨.error (.backend ("Content type too long: " ++ toString contentType.utf8ByteSize)),
          grown, ?_, fun _ => ⟨grown, hgrown.grows, .refl hgrown.rooted _⟩⟩
        simp only [putOn, locateKey_key, List.dropLast, hrun, hfile]
    | some file =>
        obtain ⟨result, t', hwritten, hfailed⟩ := writeAndMoveOn_failed hm
          (s := { s with tree := grown }) [a.owner.text, a.folder.text, a.name.text]
          [a.owner.text, a.folder.text, hiddenName random] hgrown.rooted a.parent.properName
          (properName_hiddenName random) hgrown.directory rfl file now
        refine ⟨result, t', ?_, fun hne => ⟨grown, hgrown.grows, hfailed hne⟩⟩
        simp only [putOn, locateKey_key, List.dropLast, hrun, hfile]
        exact hwritten
  · refine ⟨.error e, grown, ?_, fun _ => ⟨grown, hgrows, .refl hrooted _⟩⟩
    simp only [putOn, locateKey_key, List.dropLast, hrun]

end Put

-- Whichever call it is that fails, an image that could not be kept leaves no trace in what is read,
-- and no file: each file is as it was, but for one that already had the name drawn for the hidden
-- file. At most there are new directories on the way to the folder.
theorem putOn_failed_leaves_all {m : Machine} (hm : m.Honest) {s : FileStore} {root : FilePath}
    (h : s.tree.Rooted (FilePath.ofString s.base) root) {a : ImageAddress} {content : ByteArray}
    {contentType : String} {now : Instant} {random : Uuid}
    (hput : (s.putOn m a content contentType now random).1 ≠ .ok ()) :
    let after := (s.putOn m a content contentType now random).2
    Store.SameReads (.files s) (.files after) ∧
      (∀ path held modified, after.tree.lookup path = some (.file held modified) →
        s.tree.lookup path = some (.file held modified)) ∧
      (∀ path, path ≠ root ++ a.hiddenNames random →
        after.tree.lookup path = s.tree.lookup path ∨
          s.tree.lookup path = none ∧ after.tree.HasDirectory path) ∧
      ((∀ held modified,
          s.tree.lookup (root ++ a.hiddenNames random) ≠ some (.file held modified)) →
        s.tree.Grows after.tree root a.parent.names) := by
  obtain ⟨result, t', hrun, hfailed⟩ := putOn_failed hm h a content contentType now random
  rw [hrun] at hput ⊢
  obtain ⟨grown, hgrows, hcleared⟩ := hfailed hput
  have hattempt : Attempted s.tree t' (FilePath.ofString s.base) root a random :=
    .of_grows hgrows hcleared.rooted
      ⟨hcleared.atHidden.imp_right And.right, fun path hp _ => hcleared.elsewhere path hp⟩
  have hplace : t'.lookup (root ++ a.names) = s.tree.lookup (root ++ a.names) :=
    (hcleared.elsewhere _ fun hp =>
      a.names_ne_hiddenNames a random (List.append_cancel_left hp)).trans
      (hgrows.lookup_eq (by simp))
  have hhidden : grown.lookup (root ++ a.hiddenNames random) =
      s.tree.lookup (root ++ a.hiddenNames random) :=
    hgrows.lookup_eq (by simp [ImageAddress.hiddenNames])
  have helse : ∀ path, path ≠ root ++ a.hiddenNames random →
      t'.lookup path = s.tree.lookup path ∨
        s.tree.lookup path = none ∧ t'.HasDirectory path := by
    intro path hp
    have hsame := hcleared.elsewhere path hp
    rcases hgrows path with hkept | ⟨hnone, hdir, _⟩
    · exact Or.inl (hsame.trans hkept)
    · exact Or.inr ⟨hnone, (FileTree.hasDirectory_congr hsame).mpr hdir⟩
  refine ⟨hattempt.sameReads h hplace, ?_, helse, ?_⟩
  · intro path held modified hfile
    by_cases hp : path = root ++ a.hiddenNames random
    · subst hp
      rcases hcleared.atHidden with hsame | ⟨_, hnone⟩
      · rw [← hhidden, ← hsame, hfile]
      · rw [hnone] at hfile
        cases hfile
    · rcases helse path hp with hsame | ⟨_, hdir⟩
      · exact hsame.symm.trans hfile
      · exact absurd hdir (FileTree.not_hasDirectory_of_file hfile)
  · intro hfree path
    by_cases hp : path = root ++ a.hiddenNames random
    · subst hp
      left
      rcases hcleared.atHidden with hsame | ⟨hnodir, hnone⟩
      · exact hsame.trans hhidden
      · rcases h.entry_cases (a.hiddenNames random) with hvacant | hdir | ⟨held, modified, hfile⟩
        · exact hnone.trans hvacant.symm
        · exact absurd ((FileTree.hasDirectory_congr hhidden).mpr hdir) hnodir
        · exact absurd hfile (hfree held modified)
    · have hsame := hcleared.elsewhere path hp
      rcases hgrows path with hkept | ⟨hnone, hdir, hway⟩
      · exact Or.inl (hsame.trans hkept)
      · exact Or.inr ⟨hnone, (FileTree.hasDirectory_congr hsame).mpr hdir, hway⟩

-- A machine whose disk is full: of each file no more than the first byte is written.
def fullDisk : Machine :=
  { Machine.reliable with
    writeFile := fun path content now t =>
      match FileTree.writeFile path (content.extract 0 1) now t with
      | .ok _ t => .error (.code 28) t
      | .error e t => .error e t }

theorem fullDisk_honest : fullDisk.Honest :=
  { Machine.reliable_honest with
    writeFile := by
      intro path content now t
      right
      cases hrun : FileTree.writeFile path (content.extract 0 1) now t with
      | ok _ t' => exact ⟨.code 28, t', by simp only [fullDisk, hrun], Or.inr ⟨_, hrun⟩⟩
      | error e t' =>
          exact ⟨e, t', by simp only [fullDisk, hrun], Or.inl (FileTree.writeFile_error hrun)⟩ }

-- Calls of which one is bound to fail do not come to their end.
theorem runCalls_of_failing {calls : List Call}
    (h : ∃ call ∈ calls, ∀ t, ∃ e t', call.change t = .error e t') (s : FileStore) :
    ∃ e s', runCalls calls s = (.error e, s') := by
  obtain ⟨call, hcall, hfails⟩ := h
  induction calls generalizing s with
  | nil => cases hcall
  | cons first rest ih =>
      cases hrun : first.change s.tree with
      | error e t' =>
          exact ⟨first.onError e, { s with tree := t' }, by simp only [runCalls, change, hrun]⟩
      | ok _ t' =>
          rcases List.mem_cons.mp hcall with rfl | hrest
          · obtain ⟨e, t'', hfailed⟩ := hfails s.tree
            rw [hrun] at hfailed
            cases hfailed
          · obtain ⟨e, s', hrest_run⟩ := ih { s with tree := t' } hrest
            exact ⟨e, s', by simp only [runCalls, change, hrun, hrest_run]⟩

theorem writeAndMoveOn_fullDisk (s : FileStore) (pieces hidden : List String) (file : ByteArray)
    (now : Instant) : (s.writeAndMoveOn fullDisk pieces hidden file now).1 ≠ .ok () := by
  have hfails : ∀ t, ∃ e t', fullDisk.writeFile (s.path hidden) file now t = .error e t' := by
    intro t
    simp only [fullDisk]
    cases FileTree.writeFile (s.path hidden) (file.extract 0 1) now t with
    | ok _ t' => exact ⟨_, _, rfl⟩
    | error e t' => exact ⟨_, _, rfl⟩
  have hcall : ∃ call ∈ draftCalls fullDisk s hidden file now ++ [moveCall fullDisk s pieces hidden],
      ∀ t, ∃ e t', call.change t = .error e t' :=
    ⟨_, List.mem_append_left _ (List.mem_cons_of_mem _ List.mem_cons_self), hfails⟩
  obtain ⟨e, s', hrun⟩ := runCalls_of_failing hcall s
  simp only [writeAndMoveOn, hrun]
  nofun

theorem putOn_fullDisk (s : FileStore) (a : ImageAddress) (content : ByteArray)
    (contentType : String) (now : Instant) (random : Uuid) :
    (s.putOn fullDisk a content contentType now random).1 ≠ .ok () := by
  simp only [putOn, locateKey_key]
  split
  · nofun
  · split
    · nofun
    · exact writeAndMoveOn_fullDisk _ _ _ _ _

-- A tree in which a file has the name of an owner.
def ownerTaken : FileStore := ⟨"", FileTree.empty.put [Text.utf8 "u1"] (.file ⟨#[1]⟩ .epoch)⟩

theorem ownerTaken_rooted : ownerTaken.tree.Rooted (FilePath.ofString ownerTaken.base) [] := by
  have hbase : FilePath.ofString ownerTaken.base = [] := by decide
  rw [hbase]
  exact FileTree.rooted_empty.put_new [] (Text.utf8 "u1") (.file ⟨#[1]⟩ .epoch) ⟨_, rfl⟩ rfl nofun

theorem put_ownerTaken (content : ByteArray) (contentType : String) (now : Instant)
    (random : Uuid) :
    (ownerTaken.put ImageAddress.sample content contentType now random).1 ≠ .ok () := by
  have hway : ownerTaken.tree.Obstructed [] ImageAddress.sample.names :=
    ⟨[Text.utf8 "u1"], _, _, _, rfl, by simp, rfl⟩
  obtain ⟨e, he⟩ := ownerTaken_rooted.makeDirectories_obstructed
    ImageAddress.sample.parent.properName hway
  rw [put_of_unmade _ _ _ _ he]
  nofun

-- The disk is full while an image is written over another; a file is where a directory should be.
theorem putOn_full_disk_leaves_all :
    let full := besideCut.putOn fullDisk ImageAddress.sample ⟨#[137, 80]⟩ "image/png" .epoch ⟨1, 2⟩
    let taken := ownerTaken.put ImageAddress.sample ⟨#[137, 80]⟩ "image/png" .epoch ⟨1, 2⟩
    full.1 ≠ .ok () ∧ Store.SameReads (.files besideCut) (.files full.2) ∧
      besideCut.tree.Grows full.2.tree [] ImageAddress.sample.parent.names ∧
      taken.1 ≠ .ok () ∧ Store.SameReads (.files ownerTaken) (.files taken.2) := by
  have hfull := putOn_fullDisk besideCut ImageAddress.sample ⟨#[137, 80]⟩ "image/png" .epoch ⟨1, 2⟩
  have htaken := put_ownerTaken ⟨#[137, 80]⟩ "image/png" .epoch ⟨1, 2⟩
  obtain ⟨hreads, _, _, hgrows⟩ := putOn_failed_leaves_all fullDisk_honest besideCut_rooted hfull
  refine ⟨hfull, hreads, hgrows ?_, htaken, ?_⟩
  · intro held modified hfile
    cases hfile
  · rw [← putOn_reliable _ _ _ _ _ ownerTaken_rooted] at htaken ⊢
    exact (putOn_failed_leaves_all Machine.reliable_honest ownerTaken_rooted htaken).1

end FileStore

end Gallery
