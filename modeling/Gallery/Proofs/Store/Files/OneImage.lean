import Gallery.Proofs.Store.Files.Listing

-- What is told of one image: by the file at its place, and by whether there is anything at its
-- place.

namespace Gallery

namespace FileStore

section Place

variable {s : FileStore} {a : ImageAddress}

-- What is told of an image when the way to its place ends in an error.
theorem get_of_error {e : SystemError}
    (h : s.tree.entryAt (FilePath.ofString s.base ++ a.names) = .error e) :
    s.get a = .error (if e = .noEntry then .notFound a.key else .system e) := by
  rw [get_of_entryAt, h]
  dsimp only
  split <;> rfl

theorem contains_of_error {e : SystemError}
    (h : s.tree.entryAt (FilePath.ofString s.base ++ a.names) = .error e) :
    s.contains a = if e = .noEntry then .ok false else .error (.system e) := by
  rw [contains_of_entryAt, h]

theorem contains_of_ok {e : FileTree.Entry}
    (h : s.tree.entryAt (FilePath.ofString s.base ++ a.names) = .ok e) :
    s.contains a = .ok true := by
  rw [contains_of_entryAt, h]

-- When a file is there, and when a directory is.
theorem get_of_file {file : ByteArray} {modified : Instant}
    (h : s.tree.entryAt (FilePath.ofString s.base ++ a.names) = .ok (.file file modified)) :
    s.get a = ((Envelope.decode file).mapError (corrupt a.key)).map
      fun (contentType, content) => ⟨content, contentType, modified⟩ := by
  rw [get_of_entryAt, h]
  dsimp only
  cases Envelope.decode file <;> rfl

theorem get_of_directory {mode : Nat}
    (h : s.tree.entryAt (FilePath.ofString s.base ++ a.names) = .ok (.directory mode)) :
    s.get a = .error (.notFound a.key) := by
  rw [get_of_entryAt, h]

-- A file is never passed over, be it corrupt.
theorem get_ne_notFound_of_file {file : ByteArray} {modified : Instant}
    (h : s.tree.entryAt (FilePath.ofString s.base ++ a.names) = .ok (.file file modified))
    (what : String) : s.get a ≠ .error (.notFound what) := by
  rw [get_of_file h]
  cases Envelope.decode file <;> nofun

end Place

-- The files of images and the content types and contents that are kept in them are in one-to-one
-- correspondence, but that a content type which two bytes cannot count has no file. Any other file
-- is broken, and is reported as corrupt under whatever key it is read.
theorem files_correspond_to_images :
    (∀ contentType content,
      Envelope.encode contentType content = none ↔ 65535 < contentType.utf8ByteSize) ∧
    (∀ contentType content file, Envelope.encode contentType content = some file →
      file.data.toList = Envelope.fixedPart contentType.utf8ByteSize ++
        (Text.utf8 contentType ++ content.data.toList)) ∧
    (∀ contentType content file, Envelope.encode contentType content = some file ↔
      Envelope.decode file = .ok (contentType, content)) ∧
    (∀ file, (∀ contentType content, Envelope.encode contentType content ≠ some file) ↔
      ∃ fault, Envelope.Broken file fault) ∧
    (∀ file fault key, Envelope.Broken file fault →
      (Envelope.decode file).mapError (corrupt key) =
        .error (.corrupt (key ++ " " ++ fault.message))) ∧
    ∀ (s : FileStore) (a : ImageAddress) file modified,
      s.tree.entryAt (FilePath.ofString s.base ++ a.names) = .ok (.file file modified) →
      s.get a = ((Envelope.decode file).mapError (corrupt a.key)).map
        fun (contentType, content) => ⟨content, contentType, modified⟩ := by
  refine ⟨Envelope.encode_eq_none_iff, fun contentType content file h => ?_,
    fun contentType content file => (Envelope.decode_eq_ok_iff file contentType content).symm,
    fun file => ⟨fun hother => ?_, ?_⟩, fun file fault key hbroken => ?_,
    fun s a file modified => get_of_file⟩
  · obtain ⟨_, rfl⟩ := (Envelope.encode_eq_some_iff _ _ _).mp h
    exact Envelope.toList_fileOf contentType content
  · rcases Envelope.fileOf_or_broken file with ⟨contentType, content, hshort, hfile⟩ | hbroken
    · exact absurd ((Envelope.encode_eq_some_iff _ _ _).mpr ⟨hshort, hfile⟩) (hother _ _)
    · exact hbroken
  · rintro ⟨fault, hbroken⟩ contentType content hencoded
    have hread := Envelope.decode_of_broken hbroken
    rw [(Envelope.decode_eq_ok_iff _ _ _).mpr hencoded] at hread
    cases hread
  · rw [Envelope.decode_of_broken hbroken]
    rfl

-- The image beside the file that is cut off is read from its file, and that file is corrupt.
theorem files_correspond_beside_cut :
    besideCut.get ImageAddress.sample = .ok ⟨⟨#[71, 73, 70]⟩, "image/gif", .epoch⟩ ∧
      besideCut.get (ImageAddress.sample.parent.image cutName) =
        .error (.corrupt "u1/avatars/cut.gif has no object header") := by
  obtain ⟨_, _, hsame, hbroken, hcorrupt, hget⟩ := files_correspond_to_images
  have himage := besideCut_rooted.entryAt_found ImageAddress.sample.properName
    (e := .file (Envelope.fileOf "image/gif" ⟨#[71, 73, 70]⟩) .epoch) rfl
  have hcut := besideCut_rooted.entryAt_found
    (ImageAddress.sample.parent.image cutName).properName (e := .file ⟨#[70, 79, 76]⟩ .epoch) rfl
  have hfault : Envelope.Broken ⟨#[70, 79, 76]⟩ .noHeader := by
    refine .noHeader fun length _ hprefix => ?_
    have hlength := hprefix.length_le
    rw [Envelope.length_fixedPart] at hlength
    exact absurd hlength (by decide)
  constructor
  · rw [hget _ _ _ _ himage, (hsame _ _ _).mp (Envelope.encode_of_le (by decide) _)]
    rfl
  · rw [hget _ _ _ _ hcut, hcorrupt _ _ _ hfault]
    rfl

-- Unless the system reports an error, there is said to be something at an address exactly if
-- reading it does not report that nothing is there, with one exception: a directory in the place of
-- an image is said to be there, and is not read.
theorem contains_agrees_with_get_iff {s : FileStore} {a : ImageAddress}
    (h : ∀ e, s.get a ≠ .error (.system e)) :
    ((s.contains a = .ok true ↔ ∀ what, s.get a ≠ .error (.notFound what)) ↔
      s.tree.isDirectory (FilePath.ofString s.base ++ a.names) = false) ∧
    (s.tree.isDirectory (FilePath.ofString s.base ++ a.names) = true →
      s.contains a = .ok true ∧ s.get a = .error (.notFound a.key)) := by
  rw [FileTree.isDirectory]
  cases hentry : s.tree.entryAt (FilePath.ofString s.base ++ a.names) with
  | error e =>
      have hread := get_of_error hentry
      have hthere := contains_of_error hentry
      by_cases he : e = .noEntry
      · rw [if_pos he] at hread hthere
        simp [hread, hthere]
      · rw [if_neg he] at hread
        exact absurd hread (h e)
  | ok e =>
      have hthere := contains_of_ok hentry
      rcases FileTree.entryAt_cases hentry with ⟨file, modified, rfl⟩ | ⟨mode, rfl⟩
      · have hfound := get_ne_notFound_of_file hentry
        exact ⟨⟨fun _ => rfl, fun _ => ⟨fun _ => hfound, fun _ => hthere⟩⟩,
          fun hdir => by cases hdir⟩
      · have hread := get_of_directory hentry
        simp [hread, hthere]

theorem contains_agrees_with_get_beside_cut :
    (∀ e, besideCut.get (ImageAddress.sample.parent.image cutName) ≠ .error (.system e)) ∧
      (besideCut.contains (ImageAddress.sample.parent.image cutName) = .ok true ↔
        ∀ what,
          besideCut.get (ImageAddress.sample.parent.image cutName) ≠ .error (.notFound what)) := by
  have hentry := besideCut_rooted.entryAt_found
    (ImageAddress.sample.parent.image cutName).properName (e := .file ⟨#[70, 79, 76]⟩ .epoch) rfl
  have hdecode : Envelope.decode ⟨#[70, 79, 76]⟩ = .error .noHeader := by decide +kernel
  have hget : ∀ e,
      besideCut.get (ImageAddress.sample.parent.image cutName) ≠ .error (.system e) := by
    rw [get_of_file hentry, hdecode]
    nofun
  refine ⟨hget, (contains_agrees_with_get_iff hget).1.mpr ?_⟩
  rw [FileTree.isDirectory, hentry]

-- A tree in which a directory has the place of an image.
def placeTaken : FileStore :=
  ⟨"", FileTree.empty.put [Text.utf8 "u1"] (.directory FileTree.directoryMode) |>.put
    ImageAddress.sample.parent.names (.directory FileTree.directoryMode) |>.put
    ImageAddress.sample.names (.directory FileTree.directoryMode)⟩

theorem placeTaken_rooted : placeTaken.tree.Rooted (FilePath.ofString placeTaken.base) [] := by
  have hbase : FilePath.ofString placeTaken.base = [] := by decide
  rw [hbase]
  have howner := FileTree.rooted_empty.put_new [] (Text.utf8 "u1")
    (.directory FileTree.directoryMode) ⟨_, rfl⟩ rfl nofun
  have hfolder := howner.put_new [Text.utf8 "u1"] (Text.utf8 "avatars")
    (.directory FileTree.directoryMode) ⟨_, rfl⟩ rfl nofun
  exact hfolder.put_new ImageAddress.sample.parent.names (Text.utf8 "a.png")
    (.directory FileTree.directoryMode) ⟨_, rfl⟩ rfl nofun

-- It is said to be there, though it is not found when it is read.
theorem contains_differs_from_get_at_directory :
    placeTaken.contains ImageAddress.sample = .ok true ∧
      placeTaken.get ImageAddress.sample = .error (.notFound "u1/avatars/a.png") ∧
      ¬∀ (s : FileStore) (a : ImageAddress), (∀ e, s.get a ≠ .error (.system e)) →
        (∀ e, s.contains a ≠ .error (.system e)) →
        (s.contains a = .ok true ↔ ∀ what, s.get a ≠ .error (.notFound what)) := by
  have hentry := placeTaken_rooted.entryAt_found ImageAddress.sample.properName
    (e := .directory FileTree.directoryMode) rfl
  have hthere := contains_of_ok hentry
  have hread := get_of_directory hentry
  refine ⟨hthere, hread, fun hagree => ?_⟩
  have hiff := hagree placeTaken ImageAddress.sample (by rw [hread]; nofun) (by rw [hthere]; nofun)
  exact hiff.mp hthere _ hread

end FileStore

end Gallery
