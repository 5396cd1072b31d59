import Gallery.Proofs.Service.Reads
import Gallery.Proofs.Store.Holds

namespace Gallery

open Http

theorem StoreError.status_cases (e : StoreError) :
    e.toServiceError.presentation.status = 404 ∨ e.toServiceError.presentation.status = 400 ∨
      e.toServiceError.presentation.status = 503 := by
  cases e with
  | notFound what => exact Or.inl rfl
  | invalidKey reason => exact Or.inr (Or.inl rfl)
  | _ => exact Or.inr (Or.inr rfl)

namespace Service

variable (s : Service) (store : Store) (m : Moment) (r : Request)

-- No listing ends for want of a permission, nor for the method of the request.
theorem folderReply_status_ne (folder : FolderAddress) :
    (s.folderReply (s.listing store folder.owner.text folder.folder.text)).status ≠ 401 ∧
      (s.folderReply (s.listing store folder.owner.text folder.folder.text)).status ≠ 405 := by
  rw [listing_text]
  cases store.list folder with
  | ok found =>
      simp only [Except.mapError, Except.map, folderReply, Response.status_json]
      decide
  | error fault =>
      have hstatus := fault.status_cases
      simp only [Except.mapError, Except.map, folderReply, refuse_status]
      omega

-- What a store that holds images has for a folder: its listing, or that there is none.
theorem folderReply_of_holds {images : Contents} (h : store.Holds images)
    (folder : FolderAddress) :
    (∃ listing, s.listing store folder.owner.text folder.folder.text = .ok listing ∧
        s.folderReply (s.listing store folder.owner.text folder.folder.text) =
          .json 200 listing.toJson) ∨
      s.folderReply (s.listing store folder.owner.text folder.folder.text) =
        s.refuse (.notFound (folder.keyStart ++ " not found")) := by
  obtain ⟨entries, _, hlist⟩ := h.list folder
  rw [listing_text, hlist]
  cases entries with
  | nil => exact Or.inr rfl
  | cons e rest => exact Or.inl ⟨_, rfl, rfl⟩

theorem ownerOf_error {now : Instant} {e : ServiceError} (h : s.ownerOf now r = .error e) :
    ∃ reason, e = .unauthorized reason := by
  unfold ownerOf at h
  split at h
  · cases h
    exact ⟨_, rfl⟩
  · split at h
    · cases h
      exact ⟨_, rfl⟩
    · rename_i token _
      cases hverify : Access.Token.verify s.tokenSecret now.second token with
      | ok owner =>
          rw [hverify] at h
          cases h
      | error fault =>
          rw [hverify] at h
          cases h
          exact ⟨_, rfl⟩

section WithKey

variable {r} (hget : r.method = "GET") (hkey : s.checkKey r = .ok ())

include hget hkey

-- The path of uploads has nothing to be got.
theorem answer_get_upload (hlimit : s.bodyAllowance r ≠ none)
    (hroute : Route.ofPath r.path = some .base64Upload) :
    (s.answer store m r).1.status = 401 ∨ (s.answer store m r).1.status = 405 := by
  obtain ⟨allowance, hanswer⟩ := s.exists_answer_eq_handler store m hget hkey hlimit hroute
  rw [hanswer, status_reply]
  simp only [handler, answerKeyed, forOwner, Route.isOpen, Route.isUpload, if_true]
  cases howner : s.ownerOf m.now r with
  | error e =>
      obtain ⟨reason, rfl⟩ := s.ownerOf_error r howner
      exact Or.inl (s.refuse_status _)
  | ok owner =>
      have hserves : Route.base64Upload.serves r.method = false := by
        simp [Route.serves, Route.isUpload, hget]
      simp only [answerOwned, hserves]
      exact Or.inr rfl

-- So what it gets there is the reply of no listing.
theorem answer_get_upload_ne (hlimit : s.bodyAllowance r ≠ none)
    (hroute : Route.ofPath r.path = some .base64Upload) (folder : FolderAddress) :
    (s.answer store m r).1.status ≠
      (s.folderReply (s.listing store folder.owner.text folder.folder.text)).status := by
  obtain ⟨hne401, hne405⟩ := s.folderReply_status_ne store folder
  rcases s.answer_get_upload store m hget hkey hlimit hroute with h401 | h405
  · rw [h401]
    exact hne401.symm
  · rw [h405]
    exact hne405.symm

-- A path of a folder gets the reply of its listing.
theorem reply_of_folder {folder : FolderAddress} (hlimit : s.bodyAllowance r ≠ none)
    (hroute : Route.ofPath r.path = some (.folder folder.owner.text folder.folder.text)) :
    (s.answer store m r).1.status =
        (s.folderReply (s.listing store folder.owner.text folder.folder.text)).status ∧
      (s.answer store m r).1.body =
        (s.folderReply (s.listing store folder.owner.text folder.folder.text)).body := by
  rw [s.answer_get_folder store m hget hkey hlimit hroute]
  exact ⟨s.status_reply m _, s.body_reply m hget _⟩

omit hkey in
theorem reply_of_too_long (hlimit : s.bodyAllowance r = none) :
    (s.answer store m r).1.status = (Response.plain 413 "length limit exceeded").status ∧
      (s.answer store m r).1.body = (Response.plain 413 "length limit exceeded").body := by
  have hoptions : r.method ≠ "OPTIONS" := by
    rw [hget]
    decide
  rw [answer_eq_answerVia, answerVia, if_neg hoptions, hlimit]
  exact ⟨s.status_reply m _, s.body_reply m hget _⟩

end WithKey

variable {s store r}

-- The two paths of a folder are answered alike: with its listing, or that there is none. The one
-- folder for which they are not is that whose path without the slash is the path of uploads: there
-- a token is asked for, and then nothing can be got.
theorem folder_paths_agree_iff (hget : r.method = "GET")
    (hkey : ∃ key, r.textHeader? keyHeader = some key ∧ key ∈ s.keys.accepted)
    (folder : FolderAddress) (m m' : Moment) :
    let plain := (s.answer store m { r with path := folder.plainPath }).1
    let slashed := (s.answer store m' { r with path := folder.path }).1
    let reply := s.folderReply (s.listing store folder.owner.text folder.folder.text)
    (plain.status = slashed.status ∧ plain.body = slashed.body ↔
      ¬folder.IsUploadPath ∨ s.bodyAllowance r = none) ∧
    (s.bodyAllowance r ≠ none → slashed.status = reply.status ∧ slashed.body = reply.body) ∧
    ∀ images, store.Holds images →
      (∃ listing, s.listing store folder.owner.text folder.folder.text = .ok listing ∧
        reply = .json 200 listing.toJson) ∨
      reply = s.refuse (.notFound (folder.keyStart ++ " not found")) := by
  intro plain slashed reply
  obtain ⟨key, hheader, hmem⟩ := hkey
  have hok : s.checkKey r = .ok () :=
    (s.checkKey_eq_ok_iff r).mpr ⟨key, hheader, List.contains_iff_mem.mpr hmem⟩
  have hslashed : s.bodyAllowance r ≠ none →
      slashed.status = reply.status ∧ slashed.body = reply.body := fun hlimit =>
    s.reply_of_folder store m' (r := { r with path := folder.path }) hget hok hlimit
      (Route.ofPath_folder folder)
  refine ⟨?_, hslashed, fun images hholds => s.folderReply_of_holds store hholds folder⟩
  have hroute := Route.ofPath_plainPath folder
  by_cases hlimit : s.bodyAllowance r = none
  · obtain ⟨hstatus, hbody⟩ :=
      s.reply_of_too_long store m (r := { r with path := folder.plainPath }) hget hlimit
    obtain ⟨hstatus', hbody'⟩ :=
      s.reply_of_too_long store m' (r := { r with path := folder.path }) hget hlimit
    exact ⟨fun _ => Or.inr hlimit, fun _ => ⟨hstatus.trans hstatus'.symm, hbody.trans hbody'.symm⟩⟩
  · obtain ⟨hstatus, hbody⟩ := hslashed hlimit
    rw [hstatus, hbody]
    by_cases hupload : folder.IsUploadPath
    · rw [if_pos hupload] at hroute
      have hdiffers := s.answer_get_upload_ne store m (r := { r with path := folder.plainPath }) hget
        hok hlimit hroute folder
      constructor
      · rintro ⟨hsame, _⟩
        exact absurd hsame hdiffers
      · rintro (hother | hnone)
        · exact absurd hupload hother
        · exact absurd hnone hlimit
    · rw [if_neg hupload] at hroute
      have hplain := s.reply_of_folder store m (r := { r with path := folder.plainPath }) hget hok
        hlimit hroute
      exact ⟨fun _ => Or.inl hupload, fun _ => hplain⟩

-- A request for a folder with the key of the sample service.
def readRequest (path : String) : Request := ⟨"GET", path, [.ofText keyHeader "key"], []⟩

theorem folder_paths_agree_for_avatars :
    let answer (path : String) := (sample.answer (.memory .empty) .sample (readRequest path)).1
    (answer "/api/v0/images/u1/avatars").status = (answer "/api/v0/images/u1/avatars/").status ∧
      (answer "/api/v0/images/u1/avatars").body = (answer "/api/v0/images/u1/avatars/").body := by
  have hkey : ∃ key, (readRequest "").textHeader? keyHeader = some key ∧
      key ∈ sample.keys.accepted := ⟨"key", by decide +kernel, by decide⟩
  have hother : ¬ImageAddress.sample.parent.IsUploadPath := by decide
  obtain ⟨hiff, _, _⟩ := @folder_paths_agree_iff sample (.memory .empty) (readRequest "") rfl hkey
    ImageAddress.sample.parent .sample .sample
  exact hiff.mpr (Or.inl hother)

-- The folder whose path is also that of uploads.
def uploadFolder : FolderAddress :=
  ⟨⟨"upload", by decide +kernel⟩, ⟨"base64", by decide +kernel⟩⟩

-- It is asked for with a key, once without the slash and once with it.
theorem folder_paths_differ_for_upload :
    let answer (path : String) := (sample.answer (.memory .empty) .sample (readRequest path)).1
    (∃ key, (readRequest "").textHeader? keyHeader = some key ∧ key ∈ sample.keys.accepted) ∧
      (answer uploadFolder.plainPath).status = 401 ∧ (answer uploadFolder.path).status = 404 := by
  have hkey : (readRequest "").textHeader? keyHeader = some "key" := by decide +kernel
  exact ⟨⟨"key", hkey, by decide⟩, by decide +kernel, by decide +kernel⟩

end Service

end Gallery
