import Gallery.Proofs.Service.Gate

namespace Gallery

open Http

namespace Service

variable (s : Service) (store : Store) (m : Moment)

-- The reply to a request for an image, by what the store has for its address.
def imageReply : Except StoreError StoredImage → Response
  | .ok image => imageResponse image
  | .error e => s.refuse e.toServiceError

-- The reply to a request for a folder, by what became of its listing.
def folderReply : Except ServiceError FolderListing → Response
  | .ok listing => .json 200 listing.toJson
  | .error e => s.refuse e

theorem answerImage_text (a : ImageAddress) :
    s.answerImage store a.owner.text a.folder.text a.name.text = s.imageReply (store.get a) := by
  unfold answerImage
  rw [Route.decodeWords_image]
  simp only [run_readVia, retrieve_image]
  cases store.get a <;> rfl

theorem answerFolder_text (a : FolderAddress) :
    s.answerFolder store a.owner.text a.folder.text =
      s.folderReply (s.listing store a.owner.text a.folder.text) := by
  unfold answerFolder
  rw [Route.decodeWords_folder]
  simp only [run_readVia, retrieve_listing, listing_text]
  cases store.list a <;> rfl

variable {r : Request}

-- What is put around a reply changes neither its status nor, unless the head alone was asked for,
-- its body.
theorem status_reply (response : Response) :
    (finish m r (s.origins.mark r response)).status = response.status := by
  rw [finish_status, Response.status_mark]

theorem body_finish_mark (response : Response) :
    (finish m r (s.origins.mark r response)).body =
      if r.method = "HEAD" then .empty else response.body := by
  by_cases hhead : r.method = "HEAD"
  · rw [if_pos hhead]
    unfold finish
    simp only [Response.body_withHeader, if_pos hhead]
  · rw [if_neg hhead, finish_body m r _ hhead, Response.body_mark]

theorem body_reply (hget : r.method = "GET") (response : Response) :
    (finish m r (s.origins.mark r response)).body = response.body := by
  have hhead : r.method ≠ "HEAD" := by
    rw [hget]
    decide
  rw [body_finish_mark, if_neg hhead]

-- Nor any header but those that it is there for.
theorem header?_finish_of_ne (response : Response) {name : String} (hallow : name ≠ "allow")
    (hlength : name ≠ "content-length") (hid : name ≠ requestIdHeader) :
    (finish m r response).header? name = response.header? name := by
  have hbody : ∀ response : Response, (if r.method = "HEAD" then { response with body := .empty }
      else response).header? name = response.header? name := by
    intro response
    split <;> rfl
  unfold finish
  simp only
  rw [Response.header?_withHeader_of_ne _ _ hid, hbody,
    Response.header?_withDefault_of_ne _ _ hlength]
  split
  · split
    · rfl
    · exact Response.header?_withDefault_of_ne _ _ hallow
  · rfl

theorem contentType_reply (response : Response) :
    (finish m r (s.origins.mark r response)).header? "content-type" =
      response.header? "content-type" := by
  rw [header?_finish_of_ne m _ (by decide) (by decide) (by decide),
    Response.header?_mark_of_ne _ _ _ (by decide) (by decide) (by decide)]

variable (hget : r.method = "GET") (hkey : s.checkKey r = .ok ())
  (hlimit : s.bodyAllowance r ≠ none)

include hget hkey hlimit

-- A request with a key gets what the handler makes of its route.
theorem exists_answer_eq_handler {route : Route} (hroute : Route.ofPath r.path = some route) :
    ∃ allowance, s.answer store m r =
      (finish m r (s.origins.mark r (s.handler store m r allowance route).1),
        (s.handler store m r allowance route).2) := by
  have hoptions : r.method ≠ "OPTIONS" := by
    rw [hget]
    decide
  obtain ⟨allowance, hallowance⟩ := Option.ne_none_iff_exists'.mp hlimit
  refine ⟨allowance, ?_⟩
  rw [answer_eq_answerVia, s.answerVia_of_key store m r _ hoptions hallowance hroute hkey]

theorem answer_get_image {a : ImageAddress} (hpath : r.path = a.path) :
    s.answer store m r = (finish m r (s.origins.mark r (s.imageReply (store.get a))), store) := by
  have hroute : Route.ofPath r.path =
      some (.image a.owner.text a.folder.text a.name.text) := by
    rw [hpath, Route.ofPath_image]
  obtain ⟨allowance, hanswer⟩ := s.exists_answer_eq_handler store m hget hkey hlimit hroute
  rw [hanswer, ← answerImage_text]
  simp [handler, answerKeyed, Route.isOpen, Route.isUpload, Route.serves, hget]

theorem answer_get_folder {a : FolderAddress}
    (hroute : Route.ofPath r.path = some (.folder a.owner.text a.folder.text)) :
    s.answer store m r =
      (finish m r (s.origins.mark r
        (s.folderReply (s.listing store a.owner.text a.folder.text))), store) := by
  obtain ⟨allowance, hanswer⟩ := s.exists_answer_eq_handler store m hget hkey hlimit hroute
  rw [hanswer, ← answerFolder_text]
  simp [handler, answerKeyed, Route.isOpen, Route.isUpload, Route.serves, hget]

end Service

end Gallery
