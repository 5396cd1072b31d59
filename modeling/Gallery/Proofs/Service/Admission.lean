import Gallery.Proofs.Service.Isolation
import Gallery.Proofs.Service.Reads
import Gallery.Proofs.Store.Objects
import Gallery.Proofs.Upload.Codec

namespace Gallery

open Http

-- What an image in a store is, by the settings of its service: it is neither empty nor too long,
-- and it is kept under the content type that its bytes show, which is an allowed one.
structure Settings.Admits (settings : Settings) (image : StoredImage) : Prop where
  filled : image.content.size ≠ 0
  short : image.content.size ≤ settings.maxImageBytes
  sniffed : ∃ sniffed, sniff image.content = some sniffed ∧ image.contentType = sniffed.contentType
  allowed : ∃ type ∈ settings.allowedTypes, image.contentType = Text.lower (Text.trim type)

theorem Service.Follows.admits {s : Service} {settings : Settings} (hs : s.Follows settings)
    {form : UploadForm} {decoded : DecodedUpload} (hdecode : s.codec.decode form = .ok decoded)
    (m : Moment) : settings.Admits (kept m decoded.image) := by
  obtain ⟨folder, hcodec⟩ := hs.codec
  obtain ⟨bytes, declaredType, himage⟩ := s.codec.exists_image_of_decode hdecode
  obtain ⟨hfilled, hshort, ⟨sniffed, hsniff, hfound⟩, hallowed⟩ :=
    (s.codec.image_eq_ok_iff bytes declaredType decoded.image).mp himage
  rw [hfound, hcodec, ImageCodec.new] at hallowed
  rw [hcodec, ImageCodec.new] at hshort
  obtain ⟨type, htype, hlower⟩ := List.mem_map.mp hallowed
  rw [hfound]
  exact ⟨hfilled, hshort, ⟨sniffed, hsniff, rfl⟩, type, htype, hlower.symm⟩

-- The content types of all formats can be the value of a header.
theorem ImageFormat.contentType_valueBytes (format : ImageFormat) :
    (Text.utf8 format.contentType).all Header.isValueByte = true := by
  cases format <;> decide +kernel

-- A store that a service has kept its images in: there is nothing else in it, and each of them is
-- as the settings ask.
structure Store.Admitted (store : Store) (settings : Settings) (images : Contents) : Prop where
  holds : store.Holds images
  tidy : store.Tidy
  admits : ∀ a image, images a = some image → settings.Admits image

theorem Store.IsEmpty.admitted {store : Store} (h : store.IsEmpty) (settings : Settings) :
    store.Admitted settings Contents.empty := by
  refine ⟨h.holds, h.tidy, fun a image himage => ?_⟩
  rw [Contents.empty] at himage
  cases himage

namespace Service

section Admitted

variable {s : Service} {store : Store} {settings : Settings} {images : Contents}
  (hs : s.Follows settings) (h : store.Admitted settings images)

include hs h

theorem upload_admitted (m : Moment) (owner : Owner) (form : UploadForm) :
    ∃ images', (s.upload store m owner form).2.Admitted settings images' := by
  rcases s.upload_cases store m owner form with ⟨e, _, hfail⟩ | ⟨decoded, a, hdecode, _, hupload⟩
  · rw [hfail]
    exact ⟨images, h⟩
  · obtain ⟨store', hput, hholds⟩ := h.holds.put a decoded.image.bytes m.now m.fileId
      decoded.image.sniffed.contentType_short
    have htidy := h.tidy.put h.holds a decoded.image.bytes decoded.image.sniffed.contentType m.now
      m.fileId
    rw [hput] at hupload htidy
    rw [hupload]
    refine ⟨_, hholds, htidy, fun b image himage => ?_⟩
    by_cases hb : b = a
    · rw [hb, Contents.put_self] at himage
      cases himage
      exact hs.admits hdecode m
    · rw [Contents.put_of_ne _ _ hb] at himage
      exact h.admits b image himage

theorem answer_admitted (m : Moment) (r : Request) :
    ∃ images', (s.answer store m r).2.Admitted settings images' := by
  rcases s.leaves_or_reachesUpload store m r with ⟨_, hstore⟩ | ⟨owner, form, hreaches⟩
  · rw [hstore]
    exact ⟨images, h⟩
  · rw [s.answer_of_reachesUpload store m r hreaches]
    unfold answerUpload
    cases form with
    | error e => exact ⟨images, h⟩
    | ok form =>
        have hafter := upload_admitted hs h m owner form
        simp only
        split
        · rename_i hupload
          rwa [hupload] at hafter
        · rename_i hupload
          rwa [hupload] at hafter

theorem serve_admitted (requests : List (Moment × Request)) :
    ∃ images', (s.serve store requests).Admitted settings images' := by
  induction requests generalizing store images with
  | nil => exact ⟨images, h⟩
  | cons q rest ih =>
      obtain ⟨m, r⟩ := q
      obtain ⟨images', hafter⟩ := answer_admitted hs h m r
      exact ih hafter

omit hs in
-- Whoever gets an image gets it with the content type that it is kept under.
theorem answer_admitted_image {a : ImageAddress} {image : StoredImage}
    (himage : images a = some image) {m : Moment} {r : Request} (hget : r.method = "GET")
    (hpath : r.path = a.path) (hkey : s.checkKey r = .ok ()) (hlimit : s.bodyAllowance r ≠ none) :
    (s.answer store m r).1.status = 200 ∧
      (s.answer store m r).1.header? "content-type" = some (Text.utf8 image.contentType) ∧
      (s.answer store m r).1.body = image.content := by
  have hfound : store.get a = .ok image := by
    rw [h.holds.get, Contents.read, himage]
    rfl
  obtain ⟨sniffed, _, htype⟩ := (h.admits a image himage).sniffed
  rw [s.answer_get_image store m hget hkey hlimit hpath, hfound]
  refine ⟨?_, ?_, ?_⟩
  · rw [status_reply]
    rfl
  · rw [contentType_reply]
    have hvalue := sniffed.format.contentType_valueBytes
    have hsame : image.contentType = sniffed.format.contentType := htype
    simp only [imageReply, imageResponse, hsame, hvalue, if_true]
    rfl
  · rw [body_reply s m hget]
    rfl

end Admitted

-- Whatever requests a service has answered since its store was empty, all that is in the store are
-- images as the settings ask, each under an owner, a folder and a name that keep to the grammar of
-- segments; and whoever gets one with a key gets its bytes with the content type that they show.
theorem stored_objects_admitted {libraries : Libraries} {settings : Settings}
    {inProduction : Bool} {s : Service}
    (hs : Service.ofSettings libraries settings inProduction = .ok s) {store : Store}
    (hempty : store.IsEmpty) (requests : List (Moment × Request)) :
    (s.serve store requests).EachObject fun owner folder name image =>
      (Segment.Grammatical owner ∧ Segment.Grammatical folder ∧ Segment.Grammatical name) ∧
      settings.Admits image ∧
      ∀ m r, r.method = "GET" →
        r.path = imageRoutes ++ "/" ++ (owner ++ "/" ++ folder ++ "/" ++ name) →
        s.checkKey r = .ok () → s.bodyAllowance r ≠ none →
        let response := (s.answer (s.serve store requests) m r).1
        response.status = 200 ∧
          response.header? "content-type" = some (Text.utf8 image.contentType) ∧
          response.body = image.content := by
  obtain ⟨images, hafter⟩ :=
    serve_admitted (follows_of_ofSettings hs) (hempty.admitted settings) requests
  refine hafter.holds.eachObject hafter.tidy fun a image himage => ?_
  refine ⟨⟨a.owner.grammatical, a.folder.grammatical, a.name.grammatical⟩,
    hafter.admits a image himage, fun m r hget hpath hkey hlimit => ?_⟩
  exact answer_admitted_image hafter himage hget hpath hkey hlimit

theorem stored_objects_after_upload_request :
    Service.ofSettings .sample .sample true = .ok .ofSample ∧ Store.IsEmpty (.memory .empty) ∧
      let after := ofSample.serve (.memory .empty) [(.sample, uploadRequest)]
      (after.contains ImageAddress.sample).toOption = some true ∧
        after.EachObject fun _ _ _ image => image.contentType = "image/gif" := by
  have hempty : Store.IsEmpty (.memory .empty) := rfl
  have hobjects := stored_objects_admitted ofSettings_sample hempty [(.sample, uploadRequest)]
  have hgif : Text.lower (Text.trim " Image/GIF") = "image/gif" := by decide +kernel
  refine ⟨ofSettings_sample, hempty, by decide +kernel, hobjects.imp ?_⟩
  intro _ _ _ image himage
  obtain ⟨type, htype, hlower⟩ := himage.2.1.allowed
  rw [List.mem_singleton.mp htype, hgif] at hlower
  exact hlower

end Service

end Gallery
