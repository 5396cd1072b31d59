import Gallery.Proofs.Service.ErrorBody
import Gallery.Proofs.Service.Isolation

-- Uploads go on in the name of an owner, and only of one whose token the request brings. All other
-- requests for an upload are told that they are not authorized.

namespace Gallery.Service

open Http

variable (s : Service) (store : Store) (now : Instant) (m : Moment) (r : Request)

-- The request brings a token in its header that is accepted for an owner.
def ComesFrom (owner : Owner) : Prop :=
  ∃ header token, r.textHeader? "authorization" = some header ∧ Access.Brings header token ∧
    Access.Token.verify s.tokenSecret now.second token = .ok owner

theorem ownerOf_eq_ok_iff {owner : Owner} :
    s.ownerOf now r = .ok owner ↔ s.ComesFrom now r owner := by
  constructor
  · intro h
    obtain ⟨header, token, hheader, htoken, hverify⟩ := s.ownerOf_eq_ok r h
    exact ⟨header, token, hheader, Access.bearerToken_eq_some_iff.mp htoken, hverify⟩
  · rintro ⟨header, token, hheader, hbrings, hverify⟩
    have htoken := Access.bearerToken_eq_some_iff.mpr hbrings
    unfold ownerOf
    rw [hheader]
    dsimp only
    rw [htoken]
    dsimp only
    rw [hverify]
    rfl

theorem forOwner_of_comesFrom {owner : Owner} (h : s.ComesFrom now r owner)
    (next : Owner → Response × Store) : s.forOwner store now r next = next owner := by
  unfold forOwner
  rw [(s.ownerOf_eq_ok_iff now r).mpr h]

theorem exists_refusal_of_not_comesFrom (h : ∀ owner, ¬s.ComesFrom now r owner) :
    ∃ reason, ServiceError.Speaks (.unauthorized reason) ∧
      ∀ next, s.forOwner store now r next = (s.refuse (.unauthorized reason), store) := by
  cases howner : s.ownerOf now r with
  | ok owner => exact absurd ((s.ownerOf_eq_ok_iff now r).mp howner) (h owner)
  | error e =>
      obtain ⟨reason, rfl⟩ := s.ownerOf_error r howner
      refine ⟨reason, s.ownerOf_speaks r now _ howner, fun next => ?_⟩
      unfold forOwner
      rw [howner]

-- What would be done next can tell whether it is done, and for whom.
theorem comesFrom_of_forOwner {owner : Owner}
    (h : ∀ next, s.forOwner store now r next = next owner) : s.ComesFrom now r owner := by
  rw [← s.ownerOf_eq_ok_iff now r]
  unfold forOwner at h
  cases howner : s.ownerOf now r with
  | error e =>
      rw [howner] at h
      have hstatus := congrArg (·.1.status) (h fun _ => (notAllowed, store))
      rw [s.refuse_status e] at hstatus
      exact absurd hstatus e.status_ne_notAllowed
  | ok other =>
      rw [howner] at h
      have hstatus := congrArg (·.1.status)
        (h fun o => (.empty (if o = owner then 200 else 405), store))
      by_cases hsame : other = owner
      · rw [hsame]
      · simp [Response.empty, hsame] at hstatus

-- A request for an upload that comes this far: its body is not too long, and it has a key.
structure Arrives (allowance : Nat) (route : Route) : Prop where
  asked : r.method ≠ "OPTIONS"
  short : s.bodyAllowance r = some allowance
  path : Route.ofPath r.path = some route
  upload : route.isUpload = true
  key : s.checkKey r = .ok ()

theorem answer_of_arrives {allowance : Nat} {route : Route} (h : s.Arrives r allowance route) :
    s.answer store m r =
      (finish m r (s.origins.mark r
        (s.forOwner store m.now r (s.answerOwned store m allowance r route)).1),
      (s.forOwner store m.now r (s.answerOwned store m allowance r route)).2) := by
  have hhandler : s.handler store m r allowance route =
      s.forOwner store m.now r (s.answerOwned store m allowance r route) := by
    rw [handler, if_neg (Bool.eq_false_iff.mp (Route.isOpen_of_isUpload h.upload))]
    unfold answerKeyed
    exact if_pos h.upload
  rw [answer_eq_answerVia, s.answerVia_of_key store m r _ h.asked h.short h.path h.key, hhandler]

-- Requests for an upload go on for the owner whose token they bring, and for no one else. A token
-- is accepted just when it proves whom it speaks for. A request that comes from no owner is refused
-- as not authorized, whatever would be done next.
theorem uploads_go_on_for_proven_owners :
    (∀ owner, (∀ next, s.forOwner store m.now r next = next owner) ↔
      s.ComesFrom m.now r owner) ∧
    (∀ token owner, Access.Token.verify s.tokenSecret m.now.second token = .ok owner ↔
      Access.Token.Proves s.tokenSecret m.now.second token owner) ∧
    ((∀ owner, ¬s.ComesFrom m.now r owner) → ∃ reason, ∀ next,
      s.forOwner store m.now r next = (s.refuse (.unauthorized reason), store)) ∧
    ∀ allowance route, s.Arrives r allowance route →
      (∀ owner, s.ComesFrom m.now r owner → s.answer store m r =
        (finish m r (s.origins.mark r (s.answerOwned store m allowance r route owner).1),
          (s.answerOwned store m allowance r route owner).2)) ∧
      ((∀ owner, ¬s.ComesFrom m.now r owner) →
        (s.answer store m r).1.status = 401 ∧ (s.answer store m r).2 = store ∧
        ∃ report, report.code = "UNAUTHORIZED" ∧ Tells r (s.answer store m r).1 report) := by
  refine ⟨fun owner => ?_, fun token owner => Access.Token.verify_eq_ok_iff, fun hnone => ?_,
    fun allowance route h => ?_⟩
  · exact ⟨s.comesFrom_of_forOwner store m.now r, s.forOwner_of_comesFrom store m.now r⟩
  · obtain ⟨reason, _, hrefused⟩ := s.exists_refusal_of_not_comesFrom store m.now r hnone
    exact ⟨reason, hrefused⟩
  have hanswer := s.answer_of_arrives store m r h
  refine ⟨fun owner howner => ?_, fun hnone => ?_⟩
  · rw [hanswer, s.forOwner_of_comesFrom store m.now r howner]
  · obtain ⟨reason, hspeaks, hrefused⟩ := s.exists_refusal_of_not_comesFrom store m.now r hnone
    rw [hanswer, hrefused]
    exact ⟨(s.status_reply m _).trans (s.refuse_status _), rfl, _, rfl,
      s.tells_refuse m r hspeaks⟩

-- One token takes an upload to its owner before it expires, and to no one after.
theorem uploads_go_on_for_u1 :
    (∃ allowance, sample.Arrives uploadRequest allowance .base64Upload) ∧
      (∀ store next, sample.forOwner store Moment.sample.now uploadRequest next =
        next ImageAddress.sample.owner) ∧
      ∀ store, (sample.answer store { Moment.sample with now := ⟨2, 0, rfl⟩ }
        uploadRequest).1.status = 401 := by
  have hlimit : sample.bodyAllowance uploadRequest ≠ none := by decide +kernel
  obtain ⟨allowance, hallowance⟩ := Option.ne_none_iff_exists'.mp hlimit
  have harrives : sample.Arrives uploadRequest allowance .base64Upload :=
    ⟨by decide, hallowance, by decide +kernel, rfl, rfl⟩
  have howner : (sample.ownerOf Moment.sample.now uploadRequest).toOption =
      some ImageAddress.sample.owner := by decide +kernel
  have hexpired : (sample.ownerOf ⟨2, 0, rfl⟩ uploadRequest).toOption = none := by decide +kernel
  have hcomes := (sample.ownerOf_eq_ok_iff Moment.sample.now uploadRequest).mp
    (Except.eq_ok_of_toOption_eq_some howner)
  refine ⟨⟨allowance, harrives⟩, fun store => ?_, fun store => ?_⟩
  · exact ((sample.uploads_go_on_for_proven_owners store .sample uploadRequest).1 _).mpr hcomes
  · refine (((sample.uploads_go_on_for_proven_owners store _ uploadRequest).2.2.2 _ _ harrives).2
      fun owner hlate => ?_).1
    rw [← ownerOf_eq_ok_iff] at hlate
    rw [hlate] at hexpired
    cases hexpired

end Gallery.Service
