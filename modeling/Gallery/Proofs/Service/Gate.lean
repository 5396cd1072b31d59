import Gallery.Proofs.Service.Answer
import Gallery.Proofs.Service.Route
import Gallery.Proofs.Service.Setup

namespace Gallery

open Http

theorem Route.isOpen_ofPath_below {path : String} {route : Route}
    (hpath : path = imageRoutes ∨ ∃ rest, path = imageRoutes ++ "/" ++ rest)
    (hroute : Route.ofPath path = some route) : route.isOpen = false := by
  rcases hpath with rfl | ⟨rest, rfl⟩
  · rw [ofPath_imageRoutes] at hroute
    cases hroute
  · rw [ofPath_below] at hroute
    exact isOpen_of_ofWords hroute

namespace Service

variable (s : Service) (store : Store) (m : Moment) (r : Request)

-- What is done for a request that has come as far as a route, with what its body may be long.
abbrev Handler := Nat → Route → Response × Store

-- What the service itself does for it: whatever asks the store, the codec or for a token is here.
def handler : Handler := fun allowance route =>
  if route.isOpen then
    (if route.serves r.method then s.answerOpen store route else notAllowed, store)
  else s.answerKeyed store m allowance r route

-- The service with a handler of one's choice behind its limit on bodies, its routes and its keys.
def answerVia (handle : Handler) : Response × Store :=
  if r.method = "OPTIONS" then (finish m r (s.origins.preflight r), store)
  else
    let (response, after) : Response × Store :=
      match s.bodyAllowance r, Route.ofPath r.path with
      | none, _ => (.plain 413 "length limit exceeded", store)
      | some _, none => (s.refuse (.notFound "Nothing to see here"), store)
      | some allowance, some route =>
        if route.isOpen then handle allowance route
        else match s.checkKey r with
          | .error e => (s.refuse e, store)
          | .ok () => handle allowance route
    (finish m r (s.origins.mark r response), after)

theorem answer_eq_answerVia :
    s.answer store m r = s.answerVia store m r (s.handler store m r) := by
  unfold answer answerVia answerInside
  by_cases hoptions : r.method = "OPTIONS"
  · rw [if_pos hoptions, if_pos hoptions]
  · rw [if_neg hoptions, if_neg hoptions]
    cases s.bodyAllowance r with
    | none => rfl
    | some allowance =>
        cases Route.ofPath r.path with
        | none => rfl
        | some route =>
            simp only [answerRoute, handler]
            by_cases hopen : route.isOpen = true
            · simp only [hopen, if_true]
            · simp only [hopen]
              cases s.checkKey r <;> rfl

-- A request with a key comes to its handler.
theorem answerVia_of_key {allowance : Nat} {route : Route} (handle : Handler)
    (hoptions : r.method ≠ "OPTIONS") (hallowance : s.bodyAllowance r = some allowance)
    (hroute : Route.ofPath r.path = some route) (hkey : s.checkKey r = .ok ()) :
    s.answerVia store m r handle =
      (finish m r (s.origins.mark r (handle allowance route).1), (handle allowance route).2) := by
  unfold answerVia
  rw [if_neg hoptions, hallowance, hroute, hkey]
  simp only [ite_self]

theorem refuse_status (e : ServiceError) : (s.refuse e).status = e.presentation.status := by
  rw [refuse, Response.ofError, Response.status_json]

-- One that is refused gets the same reply whatever is behind the keys.
theorem exists_reply_of_refused {e : ServiceError}
    (hclosed : ∀ route, Route.ofPath r.path = some route → route.isOpen = false)
    (hkey : s.checkKey r = .error e) :
    ∃ reply : Response,
      (∀ store m handle, s.answerVia store m r handle = (finish m r reply, store)) ∧
      (Route.ofPath r.path ≠ none → r.method ≠ "OPTIONS" → s.bodyAllowance r ≠ none →
        reply.status = e.presentation.status) := by
  by_cases hoptions : r.method = "OPTIONS"
  · refine ⟨s.origins.preflight r, fun store m handle => ?_, fun _ hmethod => absurd hoptions hmethod⟩
    rw [answerVia, if_pos hoptions]
  cases hallowance : s.bodyAllowance r with
  | none =>
      refine ⟨s.origins.mark r (.plain 413 "length limit exceeded"), fun store m handle => ?_,
        fun _ _ hnone => absurd rfl hnone⟩
      rw [answerVia, if_neg hoptions, hallowance]
  | some allowance =>
      cases hroute : Route.ofPath r.path with
      | none =>
          refine ⟨s.origins.mark r (s.refuse (.notFound "Nothing to see here")),
            fun store m handle => ?_, fun hnone => absurd rfl hnone⟩
          rw [answerVia, if_neg hoptions, hallowance, hroute]
      | some route =>
          refine ⟨s.origins.mark r (s.refuse e), fun store m handle => ?_, fun _ _ _ => ?_⟩
          · rw [answerVia, if_neg hoptions, hallowance, hroute, hkey]
            simp only [hclosed route hroute, Bool.false_eq_true, if_false]
          · rw [Response.status_mark, refuse_status]

-- Responses to one request at two moments differ by the identifier of the request alone.
theorem finish_eq_withHeader (m' : Moment) (response : Response) :
    finish m r response =
      (finish m' r response).withHeader (.ofText requestIdHeader (requestId m r)) := by
  have hname : (Header.ofText requestIdHeader (requestId m' r)).1 =
      (Header.ofText requestIdHeader (requestId m r)).1 := by
    rw [Header.fst_ofText, Header.fst_ofText]
  unfold finish
  rw [Response.withHeader_withHeader _ _ hname]

theorem exists_checkKey_eq_error
    (h : ∀ key, r.textHeader? keyHeader = some key → key ∉ s.keys.accepted) :
    ∃ reason, s.checkKey r = .error (.unauthorized reason) := by
  unfold checkKey
  cases hheader : r.textHeader? keyHeader with
  | none => exact ⟨_, rfl⟩
  | some key =>
      have haccepts : s.keys.accepts key = false := by
        rw [← Bool.not_eq_true, Access.ApiKeys.accepts_iff_mem]
        exact h key hheader
      exact ⟨_, by simp only [haccepts]; rfl⟩

-- An empty key in the settings is no key.
theorem not_mem_accepted {settings : Settings} (hs : s.Follows settings) {key : String}
    (hmaster : key ≠ settings.masterKey) (hkeys : key ∈ settings.apiKeys → key = "") :
    key ∉ s.keys.accepted := by
  rw [hs.keys, Access.ApiKeys.ofConfigured, List.mem_cons, List.mem_filter]
  rintro (heq | ⟨hmem, hfilled⟩)
  · exact hmaster heq
  · rw [hkeys hmem] at hfilled
    cases hfilled

-- Below the path of the images a request without a key of the settings is answered alike whatever
-- the store holds: at any two moments the responses are the same but for the identifier of the
-- request, and no store is changed. They would be the same with any other handler, so none is
-- asked. Unless a browser asks for other origins or the body is said to be too long, the response
-- for an image route says that the request is not authorized.
theorem answer_without_key {libraries : Libraries} {settings : Settings} {inProduction : Bool}
    {s : Service} (hs : Service.ofSettings libraries settings inProduction = .ok s) {r : Request}
    (hpath : r.path = imageRoutes ∨ ∃ rest, r.path = imageRoutes ++ "/" ++ rest)
    (hkey : ∀ key, r.textHeader? keyHeader = some key →
      key ≠ settings.masterKey ∧ (key ∈ settings.apiKeys → key = "")) :
    (∀ store store' m m',
      (s.answer store m r).1 =
        (s.answer store' m' r).1.withHeader (.ofText requestIdHeader (requestId m r)) ∧
      (s.answer store m r).2 = store ∧ (s.answer store' m' r).2 = store') ∧
    (∀ store m handle, s.answer store m r = s.answerVia store m r handle) ∧
    (Route.ofPath r.path ≠ none → r.method ≠ "OPTIONS" → s.bodyAllowance r ≠ none →
      ∀ store m, (s.answer store m r).1.status = 401) := by
  have hfollows := follows_of_ofSettings hs
  have hclosed : ∀ route, Route.ofPath r.path = some route → route.isOpen = false :=
    fun _ hroute => Route.isOpen_ofPath_below hpath hroute
  obtain ⟨reason, hrefused⟩ := s.exists_checkKey_eq_error r fun key hheader =>
    s.not_mem_accepted hfollows (hkey key hheader).1 (hkey key hheader).2
  obtain ⟨reply, hreply, hstatus⟩ := s.exists_reply_of_refused r hclosed hrefused
  have hanswer : ∀ store m, s.answer store m r = (finish m r reply, store) := by
    intro store m
    rw [answer_eq_answerVia, hreply]
  refine ⟨fun store store' m m' => ?_, fun store m handle => ?_, fun hroute hmethod hlimit => ?_⟩
  · rw [hanswer, hanswer]
    exact ⟨finish_eq_withHeader m r m' reply, rfl, rfl⟩
  · rw [hanswer, hreply]
  · intro store m
    rw [hanswer, finish_status, hstatus hroute hmethod hlimit]
    rfl

theorem answer_with_other_key :
    Service.ofSettings .sample .sample true = .ok .ofSample ∧
      let r : Request := ⟨"GET", "/api/v0/images/u1/avatars", [.ofText keyHeader "other"], []⟩
      (∀ store store', (ofSample.answer store .sample r).1 = (ofSample.answer store' .sample r).1) ∧
        ∀ store, (ofSample.answer store .sample r).1.status = 401 ∧
          (ofSample.answer store .sample r).2 = store := by
  refine ⟨ofSettings_sample, ?_⟩
  intro r
  have hpath : r.path = imageRoutes ++ "/" ++ "u1/avatars" := by decide +kernel
  have hheader : r.textHeader? keyHeader = some "other" := by decide +kernel
  have hkey : ∀ key, r.textHeader? keyHeader = some key →
      key ≠ Settings.sample.masterKey ∧ (key ∈ Settings.sample.apiKeys → key = "") := by
    intro key hfound
    rw [hheader, Option.some.injEq] at hfound
    subst hfound
    exact ⟨by decide, nofun⟩
  obtain ⟨hsame, _, hstatus⟩ := answer_without_key ofSettings_sample (Or.inr ⟨_, hpath⟩) hkey
  have hroute : Route.ofPath r.path ≠ none := by decide +kernel
  have hlimit : ofSample.bodyAllowance r ≠ none := by decide +kernel
  have hid : ∀ store, (ofSample.answer store .sample r).1.withHeader
      (.ofText requestIdHeader (requestId .sample r)) = (ofSample.answer store .sample r).1 :=
    fun store => (hsame store store .sample .sample).1.symm
  refine ⟨fun store store' => ?_, fun store => ⟨?_, (hsame store store .sample .sample).2.1⟩⟩
  · exact (hsame store store' .sample .sample).1.trans (hid store')
  · exact hstatus hroute (by decide) hlimit store .sample

end Service

end Gallery
