import Gallery.Proofs.Service.FolderPaths
import Gallery.Proofs.ServiceError

namespace Gallery

open Http

theorem ServiceError.status_ne_notAllowed (e : ServiceError) : e.presentation.status ≠ 405 := by
  cases e <;> exact Nat.ne_of_beq_eq_false rfl

-- The words of a path that are decoded, with what they are called.
def Route.words : Route → List (String × String)
  | .folder first second => [("owner", first), ("folder", second)]
  | .image first second third => [("owner", first), ("folder", second), ("name", third)]
  | _ => []

-- One of them stands for no text.
def Route.Undecodable (route : Route) : Prop := ∃ name, decodeWords route.words = .error name

theorem Route.not_undecodable_of_ok {route : Route} {texts : List String}
    (h : decodeWords route.words = .ok texts) : ¬route.Undecodable := by
  rintro ⟨name, hname⟩
  rw [h] at hname
  cases hname

theorem Route.not_undecodable_of_nil {route : Route} (h : route.words = []) :
    ¬route.Undecodable := by
  have hwords : decodeWords route.words = .ok [] := by
    rw [h]
    rfl
  exact not_undecodable_of_ok hwords

namespace Service

variable (s : Service) (store : Store) (m : Moment) (r : Request)

section Failures

theorem checkKey_speaks : FailuresSpeak (s.checkKey r) := by
  unfold checkKey
  split
  · exact .error (ne_of_beq_false rfl)
  · split
    · exact .ok _
    · exact .error (ne_of_beq_false rfl)

theorem ownerOf_speaks (now : Instant) : FailuresSpeak (s.ownerOf now r) := by
  unfold ownerOf
  split
  · exact .error (ne_of_beq_false rfl)
  · split
    · exact .error (ne_of_beq_false rfl)
    · exact .mapError fun e _ => e.speaks

theorem readBase64Form_speaks (allowance : Nat) : FailuresSpeak (readBase64Form allowance r) := by
  unfold readBase64Form
  split
  · exact .error (ne_of_beq_false rfl)
  · split
    · exact .error (ne_of_beq_false rfl)
    · exact .mapError fun fault _ => Text.append_ne_empty (Text.append_ne_empty (by decide) _) _

theorem readPartsForm_speaks (wide : Text.WideReader) (allowance : Nat) :
    FailuresSpeak (readPartsForm wide allowance r) := by
  unfold readPartsForm
  split
  · exact .error (ne_of_beq_false rfl)
  · split
    · exact .error (ne_of_beq_false rfl)
    · exact .mapError fun e _ => e.speaks

theorem readForm_speaks (route : Route) (allowance : Nat) :
    FailuresSpeak (s.readForm route allowance r) := by
  unfold readForm
  split
  · exact readPartsForm_speaks r _ allowance
  · exact readBase64Form_speaks r allowance

theorem upload_speaks (owner : Owner) (form : UploadForm) :
    FailuresSpeak (s.upload store m owner form).1 := by
  rcases s.upload_cases store m owner form with
    ⟨e, hdeclines, hfail⟩ | ⟨decoded, a, _, _, hupload⟩
  · rw [hfail]
    cases hdeclines with
    | undecoded hdecode => exact .error (CodecError.speaks _ _)
    | unnamed reason => exact .error (ne_of_beq_false rfl)
  · rw [hupload]
    split
    · rename_i hput
      exact .error (StoreError.speaks (Store.put_error_ne hput))
    · exact .ok _

theorem image_speaks (owner folder name : String) :
    FailuresSpeak (Id.run (imageVia store.reads owner folder name)) := by
  unfold imageVia
  split
  · rename_i haddress
    exact .error (ImageAddress.ofPath_speaks _ _ _ _ haddress)
  · exact .mapError fun _ h => StoreError.speaks (Store.get_error_ne h)

theorem listing_speaks (owner folder : String) : FailuresSpeak (s.listing store owner folder) := by
  unfold listing listingVia
  split
  · rename_i haddress
    exact .error (FolderAddress.ofPath_speaks _ _ _ haddress)
  · exact .map _ (.mapError fun _ h => StoreError.speaks (Store.list_error_ne h))

theorem retrieve_speaks (owner folder : String) (name : Option String) :
    FailuresSpeak (s.retrieve store owner folder name) := by
  unfold retrieve retrieveVia
  split
  · exact .map _ (s.listing_speaks store owner folder)
  · exact .map _ (s.listing_speaks store owner folder)
  · exact .map _ (image_speaks store owner folder _)

end Failures

-- The request is refused with an error of which the client is told something.
def Refused (response : Response) : Prop := ∃ e : ServiceError, e.Speaks ∧ response = s.refuse e

-- All that can be inside of what every response has: a body that is said to be too long, a method
-- that the path does not have, a word of the path that cannot be decoded, a store that is not well,
-- and else either no error or a refusal.
inductive Outcome (r : Request) (response : Response) : Prop where
  | tooLong (hlimit : s.bodyAllowance r = none)
      (hresponse : response = .plain 413 "length limit exceeded")
  | notAllowed (hresponse : response = Service.notAllowed)
  | badWord {route : Route} {name : String} (hkey : s.checkKey r = .ok ())
      (hroute : Route.ofPath r.path = some route) (hbad : route.Undecodable)
      (hresponse : response = Service.badWord name)
  | unwell (hroute : Route.ofPath r.path = some .health) (hstatus : response.status = 503)
  | clear (hlimit : s.bodyAllowance r ≠ none)
      (hwords : s.checkKey r = .ok () → ∀ route, Route.ofPath r.path = some route →
        ¬route.Undecodable)
      (hclear : response.status < 400 ∨ s.Refused response)

section Replies

variable {s}

theorem refused_of_speaks {e : ServiceError} (h : e.Speaks) : s.Refused (s.refuse e) := ⟨e, h, rfl⟩

variable (s)

theorem answerUpload_clear (owner : Owner) {form : Except ServiceError UploadForm}
    (hform : FailuresSpeak form) :
    (s.answerUpload store m owner form).1.status < 400 ∨
      s.Refused (s.answerUpload store m owner form).1 := by
  unfold answerUpload
  split
  · exact Or.inr (refused_of_speaks (hform _ rfl))
  · rename_i form
    have hspeaks := s.upload_speaks store m owner form
    split
    · rename_i hupload
      rw [hupload] at hspeaks
      exact Or.inr (refused_of_speaks (hspeaks _ rfl))
    · left
      rw [Response.status_json]
      decide

theorem readReply_clear {forImage : Bool} {found : Except ServiceError Retrieved}
    (h : FailuresSpeak found) :
    (s.readReply forImage found).status < 400 ∨ s.Refused (s.readReply forImage found) := by
  unfold readReply
  split
  · split
    · exact Or.inl (by decide : 200 < 400)
    · exact Or.inr (refused_of_speaks (ne_of_beq_false rfl))
  · left
    rw [Response.status_json]
    decide
  · exact Or.inr (refused_of_speaks (h _ rfl))

theorem answerFolder_cases (owner folder : String) :
    ((Route.folder owner folder).Undecodable ∧
        ∃ name, s.answerFolder store owner folder = badWord name) ∨
      ¬(Route.folder owner folder).Undecodable ∧
        ((s.answerFolder store owner folder).status < 400 ∨
          s.Refused (s.answerFolder store owner folder)) := by
  unfold answerFolder
  split
  · rename_i owner' folder' hwords
    refine Or.inr ⟨Route.not_undecodable_of_ok hwords, ?_⟩
    rw [run_readVia]
    exact s.readReply_clear (s.retrieve_speaks store _ _ _)
  · rename_i hwords
    exact Or.inr ⟨Route.not_undecodable_of_ok hwords,
      Or.inr (refused_of_speaks (ne_of_beq_false rfl))⟩
  · rename_i name hwords
    exact Or.inl ⟨⟨name, hwords⟩, name, rfl⟩

theorem answerImage_cases (owner folder name : String) :
    ((Route.image owner folder name).Undecodable ∧
        ∃ word, s.answerImage store owner folder name = badWord word) ∨
      ¬(Route.image owner folder name).Undecodable ∧
        ((s.answerImage store owner folder name).status < 400 ∨
          s.Refused (s.answerImage store owner folder name)) := by
  unfold answerImage
  split
  · rename_i owner' folder' name' hwords
    refine Or.inr ⟨Route.not_undecodable_of_ok hwords, ?_⟩
    rw [run_readVia]
    exact s.readReply_clear (s.retrieve_speaks store _ _ _)
  · rename_i hwords
    exact Or.inr ⟨Route.not_undecodable_of_ok hwords,
      Or.inr (refused_of_speaks (ne_of_beq_false rfl))⟩
  · rename_i name hwords
    exact Or.inl ⟨⟨name, hwords⟩, name, rfl⟩

theorem answerOpen_status (route : Route) :
    (s.answerOpen store route).status < 400 ∨
      route = .health ∧ (s.answerOpen store route).status = 503 := by
  unfold answerOpen
  split
  · unfold answerHealth
    split
    · exact Or.inl (by decide : 200 < 400)
    · exact Or.inr ⟨rfl, rfl⟩
  · exact Or.inl (by decide : 200 < 400)
  · exact Or.inl (by decide : 200 < 400)

variable {r} (hlimit : s.bodyAllowance r ≠ none)

include hlimit

-- Where no word of the path is bad, nothing but an error of which something is told can go wrong.
theorem outcome_of_route {route : Route} (hroute : Route.ofPath r.path = some route)
    (hwords : ¬route.Undecodable) {response : Response}
    (hresponse : response.status < 400 ∨ s.Refused response) : s.Outcome r response := by
  refine .clear hlimit (fun _ other hother => ?_) hresponse
  rw [hroute, Option.some.injEq] at hother
  exact hother ▸ hwords

theorem answerKeyed_outcome {route : Route} (hroute : Route.ofPath r.path = some route)
    (hkey : s.checkKey r = .ok ()) (allowance : Nat) :
    s.Outcome r (s.answerKeyed store m allowance r route).1 := by
  unfold answerKeyed
  by_cases hupload : route.isUpload = true
  · rw [if_pos hupload]
    have hnone : route.words = [] := by
      cases route with
      | upload | base64Upload => rfl
      | _ => cases hupload
    have hwords := Route.not_undecodable_of_nil hnone
    unfold forOwner
    split
    · rename_i e howner
      exact s.outcome_of_route hlimit hroute hwords
        (Or.inr (refused_of_speaks (s.ownerOf_speaks r _ _ howner)))
    · unfold answerOwned
      split
      · exact .notAllowed rfl
      · exact s.outcome_of_route hlimit hroute hwords
          (s.answerUpload_clear store m _ (s.readForm_speaks r route allowance))
  · rw [if_neg hupload]
    split
    · exact .notAllowed rfl
    · split
      · rcases s.answerFolder_cases store _ _ with ⟨hbad, name, hresponse⟩ | ⟨hwords, hresponse⟩
        · exact .badWord hkey hroute hbad hresponse
        · exact s.outcome_of_route hlimit hroute hwords hresponse
      · rcases s.answerImage_cases store _ _ _ with ⟨hbad, name, hresponse⟩ | ⟨hwords, hresponse⟩
        · exact .badWord hkey hroute hbad hresponse
        · exact s.outcome_of_route hlimit hroute hwords hresponse
      · rename_i hfolder himage
        refine s.outcome_of_route hlimit hroute (Route.not_undecodable_of_nil ?_)
          (Or.inl (by decide : 200 < 400))
        cases route with
        | folder first second => exact absurd rfl (hfolder _ _)
        | image first second third => exact absurd rfl (himage _ _ _)
        | _ => rfl

theorem answerRoute_outcome {route : Route} (hroute : Route.ofPath r.path = some route)
    (allowance : Nat) : s.Outcome r (s.answerRoute store m allowance r route).1 := by
  unfold answerRoute
  split
  · rename_i hopen
    have hnone : route.words = [] := by
      cases route with
      | health | document | documentPage => rfl
      | _ => cases hopen
    split
    · rcases s.answerOpen_status store route with hwell | ⟨rfl, hunwell⟩
      · exact s.outcome_of_route hlimit hroute (Route.not_undecodable_of_nil hnone) (Or.inl hwell)
      · exact .unwell hroute hunwell
    · exact .notAllowed rfl
  · split
    · rename_i e hkey
      refine .clear hlimit (fun hok => ?_) (Or.inr (refused_of_speaks (s.checkKey_speaks r _ hkey)))
      rw [hkey] at hok
      cases hok
    · rename_i hkey
      exact s.answerKeyed_outcome store m hlimit hroute hkey allowance

end Replies

theorem answerInside_outcome : s.Outcome r (s.answerInside store m r).1 := by
  unfold answerInside
  split
  · rename_i hlimit
    exact .tooLong hlimit rfl
  · rename_i allowance hallowance
    have hlimit : s.bodyAllowance r ≠ none := by
      rw [hallowance]
      nofun
    split
    · rename_i hroute
      refine .clear hlimit (fun _ route hother => ?_)
        (Or.inr (refused_of_speaks (ne_of_beq_false rfl)))
      rw [hroute] at hother
      cases hother
    · rename_i route hroute
      exact s.answerRoute_outcome store m hlimit hroute allowance

-- The response tells the client in JSON which error there was. If the head of a response was asked
-- for, all is told but the body.
structure Tells (r : Request) (response : Response) (report : ErrorReport) : Prop where
  error : report.error ≠ ""
  code : report.code ≠ ""
  contentType : response.header? "content-type" = some (Text.utf8 "application/json")
  body : response.body = if r.method = "HEAD" then .empty else report.toJson.render.toUTF8

theorem tells_refuse {e : ServiceError} (h : e.Speaks) :
    Tells r (finish m r (s.origins.mark r (s.refuse e))) (ErrorReport.of s.inProduction e) := by
  refine ⟨h, e.code_ne_empty, ?_, ?_⟩
  · rw [contentType_reply]
    rfl
  · rw [body_finish_mark]
    rfl

theorem Refused.tells {response : Response} (h : s.Refused response) :
    ∃ report, Tells r (finish m r (s.origins.mark r response)) report := by
  obtain ⟨e, hspeaks, rfl⟩ := h
  exact ⟨_, s.tells_refuse m r hspeaks⟩

theorem not_tells_of_contentType {response : Response}
    (h : response.header? "content-type" ≠ some (Text.utf8 "application/json")) :
    ¬∃ report, Tells r (finish m r (s.origins.mark r response)) report := by
  rintro ⟨report, htells⟩
  have hjson := htells.contentType
  rw [contentType_reply] at hjson
  exact h hjson

theorem contentType_plain_ne (status : Nat) (text : String) :
    (Response.plain status text).header? "content-type" ≠
      some (Text.utf8 "application/json") := by
  have hplain : (Response.plain status text).header? "content-type" =
      some (Text.utf8 "text/plain; charset=utf-8") := rfl
  rw [hplain]
  decide +kernel

variable {s store m r}

-- A response with a status of an error, unless it is the report of a store that is not well, tells
-- the client in JSON which error there was, whatever it was that went wrong, with three exceptions:
-- a request that itself says its body is too long, one with a method that its path does not have,
-- and one with a key and a word in its path that cannot be decoded.
theorem answer_tells_error_iff (herror : 400 ≤ (s.answer store m r).1.status)
    (hwell : Route.ofPath r.path = some .health → (s.answer store m r).1.status ≠ 503) :
    (∃ report, Tells r (s.answer store m r).1 report) ↔
      s.bodyAllowance r ≠ none ∧ (s.answer store m r).1.status ≠ 405 ∧
        ¬(s.checkKey r = .ok () ∧
          ∃ route, Route.ofPath r.path = some route ∧ route.Undecodable) := by
  by_cases hoptions : r.method = "OPTIONS"
  · have hstatus : (s.answer store m r).1.status = 200 := by
      rw [answer, if_pos hoptions, finish_status]
      rfl
    omega
  have hanswer : (s.answer store m r).1 =
      finish m r (s.origins.mark r (s.answerInside store m r).1) := by
    rw [answer, if_neg hoptions]
  rw [hanswer, status_reply] at herror hwell ⊢
  cases s.answerInside_outcome store m r with
  | tooLong hlimit hresponse =>
      rw [hresponse]
      exact iff_of_false (not_tells_of_contentType s m r (contentType_plain_ne _ _))
        fun hno => hno.1 hlimit
  | notAllowed hresponse =>
      rw [hresponse]
      exact iff_of_false (not_tells_of_contentType s m r (Option.some_ne_none _).symm)
        fun hno => hno.2.1 rfl
  | badWord hkey hroute hbad hresponse =>
      rw [hresponse]
      exact iff_of_false (not_tells_of_contentType s m r (contentType_plain_ne _ _))
        fun hno => hno.2.2 ⟨hkey, _, hroute, hbad⟩
  | unwell hroute hstatus => exact absurd hstatus (hwell hroute)
  | clear hlimit hwords hclear =>
      rcases hclear with hfine | hrefused
      · omega
      · refine iff_of_true (hrefused.tells s m r) ⟨hlimit, ?_, ?_⟩
        · obtain ⟨e, _, he⟩ := hrefused
          rw [he, refuse_status]
          exact e.status_ne_notAllowed
        · rintro ⟨hkey, route, hroute, hbad⟩
          exact hwords hkey route hroute hbad

theorem answer_tells_error_of_unknown_path :
    400 ≤ (sample.answer (.memory .empty) .sample (readRequest "/nowhere")).1.status ∧
      ∃ report, Tells (readRequest "/nowhere")
        (sample.answer (.memory .empty) .sample (readRequest "/nowhere")).1 report := by
  have hroute : Route.ofPath (readRequest "/nowhere").path = none := by decide +kernel
  have hstatus :
      (sample.answer (.memory .empty) .sample (readRequest "/nowhere")).1.status = 404 := by
    decide +kernel
  have herror :
      400 ≤ (sample.answer (.memory .empty) .sample (readRequest "/nowhere")).1.status := by
    rw [hstatus]
    decide
  refine ⟨herror, (answer_tells_error_iff herror ?_).mpr ⟨by decide +kernel, ?_, ?_⟩⟩
  · rw [hroute]
    nofun
  · rw [hstatus]
    decide
  · rintro ⟨_, route, hother, _⟩
    rw [hroute] at hother
    cases hother

-- A body that is said to be longer than any image, a word that cannot be decoded, and a method that
-- a path does not have.
theorem errors_without_report :
    let answer (r : Request) := (sample.answer (.memory .empty) .sample r).1
    ∀ r ∈ [⟨"PUT", "/api/v0/images/upload", [.ofText "content-length" "99999999999"], []⟩,
        readRequest "/api/v0/images/u1/%FF/", ⟨"DELETE", "/health", [], []⟩,
        ⟨"DELETE", "/docs", [], []⟩],
      400 ≤ (answer r).status ∧ (answer r).status ≠ 503 ∧ ¬∃ report, Tells r (answer r) report := by
  intro answer r hr
  simp only [List.mem_cons, List.not_mem_nil, or_false] at hr
  rcases hr with rfl | rfl | rfl | rfl
  all_goals
    refine ⟨by decide +kernel, by decide +kernel, ?_⟩
    rintro ⟨report, htells⟩
    exact absurd htells.contentType (by decide +kernel)

end Service

end Gallery
