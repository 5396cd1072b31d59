import Gallery.Proofs.Access.ApiKeys
import Gallery.Proofs.Access.Verification
import Gallery.Proofs.Http.Response
import Gallery.Proofs.Service.Route
import Gallery.Proofs.Service.Upload
import Gallery.Proofs.Store.Frame
import Gallery.Service.Answer

namespace Gallery

open Http

theorem ServiceError.status_ne_created (e : ServiceError) : e.presentation.status ≠ 201 := by
  cases e <;> exact Nat.ne_of_beq_eq_false rfl

namespace Service

variable (s : Service) (store : Store) (m : Moment) (r : Request)

-- An answer that leaves the store as it is and does not say that anything was created.
def Leaves (answer : Response × Store) : Prop := answer.1.status ≠ 201 ∧ answer.2 = store

theorem refuse_status_ne (e : ServiceError) : (s.refuse e).status ≠ 201 := e.status_ne_created

-- Read from a store, a path gets the reply to what the store has for it.
theorem run_readVia (owner folder : String) (name : Option String) :
    Id.run (s.readVia store.reads owner folder name) =
      s.readReply name.isSome (s.retrieve store owner folder name) := rfl

theorem readReply_status_ne (forImage : Bool) (found : Except ServiceError Retrieved) :
    (s.readReply forImage found).status ≠ 201 := by
  unfold readReply
  split
  · split
    · exact Nat.ne_of_beq_eq_false rfl
    · exact s.refuse_status_ne _
  · exact Nat.ne_of_beq_eq_false rfl
  · exact s.refuse_status_ne _

theorem answerFolder_status_ne (owner folder : String) :
    (s.answerFolder store owner folder).status ≠ 201 := by
  unfold answerFolder
  split
  · rw [run_readVia]
    exact s.readReply_status_ne _ _
  · exact s.refuse_status_ne _
  · exact Nat.ne_of_beq_eq_false rfl

theorem answerImage_status_ne (owner folder name : String) :
    (s.answerImage store owner folder name).status ≠ 201 := by
  unfold answerImage
  split
  · rw [run_readVia]
    exact s.readReply_status_ne _ _
  · exact s.refuse_status_ne _
  · exact Nat.ne_of_beq_eq_false rfl

theorem answerOpen_status_ne (route : Route) : (s.answerOpen store route).status ≠ 201 := by
  unfold answerOpen
  split
  · unfold answerHealth
    cases store.checkHealth with
    | ok _ => exact Nat.ne_of_beq_eq_false rfl
    | error _ => exact Nat.ne_of_beq_eq_false rfl
  · exact Nat.ne_of_beq_eq_false rfl
  · exact Nat.ne_of_beq_eq_false rfl

theorem finish_status (response : Response) : (finish m r response).status = response.status := by
  unfold finish
  simp only [Response.status_withHeader]
  split <;> simp only [Response.status_withDefault] <;> split
  · split
    · rfl
    · exact response.status_withDefault _
  · rfl
  · split
    · rfl
    · exact response.status_withDefault _
  · rfl

theorem finish_body (response : Response) (h : r.method ≠ "HEAD") :
    (finish m r response).body = response.body := by
  unfold finish
  simp only [Response.body_withHeader, if_neg h, Response.body_withDefault]
  split
  · split
    · rfl
    · exact response.body_withDefault _
  · rfl

-- The request comes as far as the upload of a form in the name of an owner: its body may be as long
-- as it says, it has a key and the token of the owner, and its path and method are those of uploads.
structure ReachesUpload (s : Service) (now : Instant) (r : Request) (owner : Owner)
    (form : Except ServiceError UploadForm) : Prop where
  key : s.checkKey r = .ok ()
  owner : s.ownerOf now r = .ok owner
  method : r.method = "PUT"
  form : ∃ allowance route, s.bodyAllowance r = some allowance ∧ Route.ofPath r.path = some route ∧
    route.isUpload = true ∧ form = s.readForm route allowance r

theorem answerKeyed_of_isUpload {route : Route} (hupload : route.isUpload = true)
    (hmethod : r.method = "PUT") {owner : Owner} (howner : s.ownerOf m.now r = .ok owner)
    (allowance : Nat) :
    s.answerKeyed store m allowance r route =
      s.answerUpload store m owner (s.readForm route allowance r) := by
  have hserves : route.serves r.method = true := by simp [Route.serves, hupload, hmethod]
  unfold answerKeyed
  simp only [forOwner, answerOwned, hupload, howner, hserves, if_true]
  rfl

-- Only a request that is made with `PUT` in the name of some owner goes further than the routes.
theorem answerKeyed_cases (allowance : Nat) (route : Route) :
    Leaves store (s.answerKeyed store m allowance r route) ∨
      ∃ owner, s.ownerOf m.now r = .ok owner ∧ r.method = "PUT" ∧ route.isUpload = true := by
  by_cases hupload : route.isUpload = true
  · cases howner : s.ownerOf m.now r with
    | error e =>
        left
        unfold answerKeyed
        simp only [forOwner, hupload, howner, if_true]
        exact ⟨s.refuse_status_ne e, rfl⟩
    | ok owner =>
        by_cases hmethod : r.method = "PUT"
        · exact Or.inr ⟨owner, rfl, hmethod, hupload⟩
        · left
          have hserves : route.serves r.method = false := by simp [Route.serves, hupload, hmethod]
          unfold answerKeyed
          simp only [forOwner, answerOwned, hupload, howner, hserves, if_true]
          exact ⟨Nat.ne_of_beq_eq_false rfl, rfl⟩
  · left
    unfold answerKeyed
    rw [if_neg hupload]
    by_cases hserves : route.serves r.method = true
    · simp only [hserves, Bool.not_true, Bool.false_eq_true, if_false]
      split
      · exact ⟨s.answerFolder_status_ne store _ _, rfl⟩
      · exact ⟨s.answerImage_status_ne store _ _ _, rfl⟩
      · exact ⟨Nat.ne_of_beq_eq_false rfl, rfl⟩
    · simp only [hserves]
      exact ⟨Nat.ne_of_beq_eq_false rfl, rfl⟩

theorem checkKey_eq_ok_iff :
    s.checkKey r = .ok () ↔
      ∃ key, r.textHeader? keyHeader = some key ∧ s.keys.accepted.contains key = true := by
  have hmember : ∀ key, s.keys.accepted.contains key = true ↔ s.keys.accepts key = true := by
    intro key
    rw [List.contains_iff_mem, Access.ApiKeys.accepts_iff_mem]
  simp only [hmember]
  unfold checkKey
  cases r.textHeader? keyHeader with
  | none => simp
  | some key => cases hkey : s.keys.accepts key <;> simp [hkey]

theorem ownerOf_eq_ok {now : Instant} {owner : Owner} (h : s.ownerOf now r = .ok owner) :
    ∃ header token, r.textHeader? "authorization" = some header ∧
      Access.bearerToken header = some token ∧
      Access.Token.verify s.tokenSecret now.second token = .ok owner := by
  unfold ownerOf at h
  split at h; · cases h
  rename_i header hheader
  split at h; · cases h
  rename_i token htoken
  exact ⟨header, token, hheader, htoken, Except.eq_ok_of_mapError_eq_ok h⟩

theorem answerRoute_cases (allowance : Nat) (route : Route) :
    Leaves store (s.answerRoute store m allowance r route) ∨
      s.checkKey r = .ok () ∧
        ∃ owner, s.ownerOf m.now r = .ok owner ∧ r.method = "PUT" ∧ route.isUpload = true := by
  unfold answerRoute
  split
  · left
    split
    · exact ⟨s.answerOpen_status_ne store route, rfl⟩
    · exact ⟨Nat.ne_of_beq_eq_false rfl, rfl⟩
  · cases s.checkKey r with
    | error e => exact Or.inl ⟨s.refuse_status_ne e, rfl⟩
    | ok _ => exact (s.answerKeyed_cases store m r allowance route).imp_right fun h => ⟨rfl, h⟩

theorem answerInside_of_reachesUpload {owner : Owner} {form : Except ServiceError UploadForm}
    (h : s.ReachesUpload m.now r owner form) :
    s.answerInside store m r = s.answerUpload store m owner form := by
  obtain ⟨hkey, howner, hmethod, allowance, route, hallowance, hroute, hupload, rfl⟩ := h
  have hclosed := Route.isOpen_of_isUpload hupload
  simp only [answerInside, hallowance, hroute, answerRoute, hclosed, hkey]
  exact s.answerKeyed_of_isUpload store m r hupload hmethod howner allowance

theorem answerInside_cases :
    Leaves store (s.answerInside store m r) ∨ ∃ owner form, s.ReachesUpload m.now r owner form := by
  unfold answerInside
  split
  · exact Or.inl ⟨Nat.ne_of_beq_eq_false rfl, rfl⟩
  · rename_i allowance hallowance
    split
    · exact Or.inl ⟨s.refuse_status_ne _, rfl⟩
    · rename_i route hroute
      rcases s.answerRoute_cases store m r allowance route with
        hleaves | ⟨hkey, owner, howner, hmethod, hupload⟩
      · exact Or.inl hleaves
      · exact Or.inr ⟨owner, _, hkey, howner, hmethod, allowance, route, hallowance, hroute,
          hupload, rfl⟩

-- All that can come of a request: its answer leaves the store alone, or it comes as far as an upload.
theorem leaves_or_reachesUpload :
    Leaves store (s.answer store m r) ∨ ∃ owner form, s.ReachesUpload m.now r owner form := by
  unfold answer
  by_cases hoptions : r.method = "OPTIONS"
  · rw [if_pos hoptions]
    refine Or.inl ⟨?_, rfl⟩
    rw [finish_status]
    exact Nat.ne_of_beq_eq_false rfl
  · rw [if_neg hoptions]
    refine (s.answerInside_cases store m r).imp_left ?_
    rintro ⟨hstatus, hsame⟩
    refine ⟨?_, hsame⟩
    rwa [finish_status, Response.status_mark]

theorem answer_of_reachesUpload {owner : Owner} {form : Except ServiceError UploadForm}
    (h : s.ReachesUpload m.now r owner form) :
    s.answer store m r =
      (finish m r (s.origins.mark r (s.answerUpload store m owner form).1),
        (s.answerUpload store m owner form).2) := by
  have hoptions : r.method ≠ "OPTIONS" := by
    rw [h.method]
    decide
  rw [answer, if_neg hoptions, s.answerInside_of_reachesUpload store m r h]

end Service

end Gallery
