import Gallery.Proofs.Service.FolderPaths
import Gallery.Proofs.Service.Isolation
import Gallery.Proofs.Upload.Checks

namespace Gallery

open Http ImageCodec

section Limits

variable {maxImageBytes n : Nat} (hlimit : maxImageBytes * 4 < Word.limit)

include hlimit

theorem maxEncoded_fits : (maxImageBytes + 2) / 3 * 4 + 4 < Word.limit := by
  rw [Word.limit_eq] at *
  omega

-- Four bytes of a body for every three of the largest image, rounded up, and the overhead.
theorem bodyLimit_eq : bodyLimit maxImageBytes = (maxImageBytes * 4 + 2) / 3 + bodyOverhead := by
  have hsum : (maxImageBytes * 4 + 2) / 3 + bodyOverhead < Word.limit := by
    rw [Word.limit_eq] at *
    have hoverhead : bodyOverhead = 65536 := rfl
    omega
  rw [bodyLimit, Word.saturate_of_lt hlimit, Word.saturate_of_lt hsum]

variable (hn : n ≤ maxImageBytes)

include hn

theorem part_le_bodyLimit {framing : Nat} (hframing : framing ≤ bodyOverhead) :
    n + framing ≤ bodyLimit maxImageBytes := by
  rw [bodyLimit_eq hlimit]
  omega

-- The groups of base64 are rounded up on their own, which may take two bytes of the overhead.
theorem encoded_le_bodyLimit {others : Nat} (hothers : others + 2 ≤ bodyOverhead) :
    (n + 2) / 3 * 4 + others ≤ bodyLimit maxImageBytes := by
  rw [bodyLimit_eq hlimit]
  omega

end Limits

namespace Service

theorem maxBodyBytes_of_ofSettings {libraries : Libraries} {settings : Settings}
    {inProduction : Bool} {s : Service}
    (h : Service.ofSettings libraries settings inProduction = .ok s) :
    s.maxBodyBytes = bodyLimit settings.maxImageBytes := by
  unfold ofSettings at h
  obtain ⟨urls, _, h⟩ := Except.exists_of_bind_eq_ok h
  obtain ⟨folder, _, h⟩ := Except.exists_of_bind_eq_ok h
  obtain ⟨origins, _, h⟩ := Except.exists_of_bind_eq_ok h
  split at h
  · cases h
  · cases h
    rfl

-- The payload is all of a body but for what is around it: the image of a part, or base64 text
-- without line breaks, in a `data:` address or not.
inductive MakesUp (bodyLength : Nat) : UploadPayload → ByteArray → Prop where
  | part {bytes : ByteArray} {declaredType : Option String}
      (hframing : bodyLength ≤ bytes.size + bodyOverhead) :
      MakesUp bodyLength (.multipart bytes declaredType) bytes
  | encoded {text : String} {bytes : ByteArray} (hcarries : Carries text bytes)
      (hothers : bodyLength + 2 ≤ (bytes.size + 2) / 3 * 4 + bodyOverhead) :
      MakesUp bodyLength (.base64 text) bytes

-- The length of its body that a request states.
def statedLength? (r : Request) : Option Nat :=
  (r.textHeader? "content-length").bind fun v => Text.naturalBelow? Word.limit v.toList

-- The request asks for an upload, and its body, however long it is, holds a form.
structure Submits (s : Service) (r : Request) (route : Route) (form : UploadForm) : Prop where
  method : r.method = "PUT"
  path : Route.ofPath r.path = some route
  upload : route.isUpload = true
  body : s.readForm route r.body.length r = .ok form

section Forms

variable {s : Service} {r : Request} {route : Route} {form : UploadForm} {allowance : Nat}
  (hread : s.readForm route r.body.length r = .ok form)

include hread

theorem readForm_of_le (h : r.body.length ≤ allowance) :
    s.readForm route allowance r = .ok form := by
  rw [← hread]
  unfold readForm readPartsForm readBase64Form
  simp only [Nat.not_lt.mpr h, Nat.lt_irrefl, if_false]

-- A form in a body that is too long is not read.
theorem readForm_of_lt (h : allowance < r.body.length) :
    ∃ reason, s.readForm route allowance r = .error (.payloadTooLarge reason) := by
  unfold readForm at hread ⊢
  split at hread
  · rename_i hroute
    rw [if_pos hroute]
    unfold readPartsForm at hread ⊢
    split at hread
    · cases hread
    · exact ⟨_, if_pos h⟩
  · rename_i hroute
    rw [if_neg hroute]
    unfold readBase64Form at hread ⊢
    split at hread
    · cases hread
    · rename_i hjson
      rw [if_neg hjson, if_pos h]
      exact ⟨_, rfl⟩

end Forms

-- An image within the limit that makes up a body does not make it too long, and is taken out of it.
theorem MakesUp.fits {codec : ImageCodec} (hlimit : codec.maxImageBytes * 4 < Word.limit)
    {bodyLength : Nat} {payload : UploadPayload} {bytes : ByteArray}
    (h : MakesUp bodyLength payload bytes) (hsmall : bytes.size ≤ codec.maxImageBytes) :
    bodyLength ≤ bodyLimit codec.maxImageBytes ∧
      ∃ declaredType, codec.content payload = .ok (bytes, declaredType) := by
  cases h with
  | @part _ declaredType hframing =>
      have hroom := part_le_bodyLimit hlimit hsmall (Nat.le_refl bodyOverhead)
      exact ⟨Nat.le_trans hframing hroom, declaredType, rfl⟩
  | @encoded text _ hcarries hothers =>
      have hroom := encoded_le_bodyLimit hlimit hsmall (Nat.le_refl (65534 + 2))
      have hoverhead : bodyOverhead = 65534 + 2 := rfl
      refine ⟨by omega, none, ?_⟩
      rw [ImageCodec.content,
        codec.decodeBase64_of_carries_of_le (maxEncoded_fits hlimit) hcarries hsmall]
      rfl

section Uploads

variable (s : Service) (store : Store) (m : Moment) (owner : Owner) {form : UploadForm}

-- An upload is refused for its size only by the codec, and it is if the codec refuses it for that.
theorem answerUpload_status_ne_tooLarge
    (hdecode : ∀ size limit, s.codec.decode form ≠ .error (.tooLarge size limit)) :
    (s.answerUpload store m owner (.ok form)).1.status ≠ 413 := by
  have hrefused {e : ServiceError} (h : e.presentation.status ≠ 413) : (s.refuse e).status ≠ 413 := by
    rw [refuse_status]
    exact h
  simp only [answerUpload]
  rcases s.upload_cases store m owner form with
    ⟨e, hdeclines, hfail⟩ | ⟨decoded, a, _, _, hupload⟩
  · rw [hfail]
    cases hdeclines with
    | @undecoded fault hfault =>
        cases fault with
        | tooLarge size limit => exact absurd hfault (hdecode size limit)
        | _ => exact hrefused (Nat.ne_of_beq_eq_false rfl)
    | unnamed reason => exact hrefused (Nat.ne_of_beq_eq_false rfl)
  · rw [hupload]
    cases store.put a decoded.image.bytes decoded.image.sniffed.contentType m.now m.fileId with
    | mk result after =>
        cases result with
        | error fault =>
            have hstatus := fault.status_cases
            exact hrefused (by omega)
        | ok _ =>
            rw [Response.status_json]
            decide

theorem answerUpload_status_of_tooLarge {size limit : Nat}
    (hdecode : s.codec.decode form = .error (.tooLarge size limit)) :
    (s.answerUpload store m owner (.ok form)).1.status = 413 := by
  simp only [answerUpload, upload, hdecode]
  exact s.refuse_status _

theorem answerUpload_status_ne_created (h : ∀ decoded, s.codec.decode form ≠ .ok decoded) :
    (s.answerUpload store m owner (.ok form)).1.status ≠ 201 := by
  simp only [answerUpload]
  rcases s.upload_cases store m owner form with ⟨e, _, hfail⟩ | ⟨decoded, _, hdecode, _⟩
  · rw [hfail]
    exact s.refuse_status_ne e
  · exact absurd hdecode (h decoded)

end Uploads

section Requests

variable (s : Service) (store : Store) (m : Moment) {r : Request} {route : Route}
  {form : UploadForm}

theorem checkKey_error {e : ServiceError} (h : s.checkKey r = .error e) :
    ∃ reason, e = .unauthorized reason := by
  unfold checkKey at h
  split at h
  · cases h
    exact ⟨_, rfl⟩
  · split at h
    · cases h
    · cases h
      exact ⟨_, rfl⟩

theorem status_answer_of_reachesUpload {owner : Owner} {read : Except ServiceError UploadForm}
    (h : s.ReachesUpload m.now r owner read) :
    (s.answer store m r).1.status = (s.answerUpload store m owner read).1.status := by
  rw [s.answer_of_reachesUpload store m r h]
  exact s.status_reply m _

-- How a request for an upload is answered: its body is said to be too long, it has no right to make
-- it, or its form is read and uploaded.
theorem answer_cases_of_submits (h : s.Submits r route form) :
    s.bodyAllowance r = none ∧ (s.answer store m r).1.status = 413 ∨
      ¬(s.checkKey r = .ok () ∧ ∃ owner, s.ownerOf m.now r = .ok owner) ∧
        (s.answer store m r).1.status = 401 ∨
      ∃ allowance owner, s.bodyAllowance r = some allowance ∧
        s.ReachesUpload m.now r owner (s.readForm route allowance r) := by
  have hoptions : r.method ≠ "OPTIONS" := by
    rw [h.method]
    decide
  have hclosed := Route.isOpen_of_isUpload h.upload
  have hanswer : (s.answer store m r).1.status = (s.answerInside store m r).1.status := by
    rw [answer, if_neg hoptions]
    exact s.status_reply m _
  rw [hanswer]
  cases hallowance : s.bodyAllowance r with
  | none =>
      refine Or.inl ⟨rfl, ?_⟩
      simp only [answerInside, hallowance]
      rfl
  | some allowance =>
      right
      cases hkey : s.checkKey r with
      | error e =>
          obtain ⟨reason, rfl⟩ := s.checkKey_error hkey
          left
          constructor
          · rintro ⟨hok, _⟩
            cases hok
          · simp only [answerInside, hallowance, h.path, answerRoute, hclosed, hkey]
            exact s.refuse_status _
      | ok _ =>
          cases howner : s.ownerOf m.now r with
          | error e =>
              obtain ⟨reason, rfl⟩ := s.ownerOf_error r howner
              left
              constructor
              · rintro ⟨_, _, hok⟩
                cases hok
              · simp only [answerInside, hallowance, h.path, answerRoute, hclosed, hkey, answerKeyed,
                  h.upload, forOwner, howner]
                exact s.refuse_status _
          | ok owner =>
              exact Or.inr ⟨allowance, owner, rfl, hkey, howner, h.method, allowance, route,
                hallowance, h.path, h.upload, rfl⟩

-- A body that is not too long, and of which no other length is stated, is let in.
theorem exists_bodyAllowance (hbody : r.body.length ≤ s.maxBodyBytes)
    (hstated : ∀ length, statedLength? r = some length → length = r.body.length) :
    ∃ allowance, s.bodyAllowance r = some allowance ∧ r.body.length ≤ allowance := by
  unfold statedLength? at hstated
  unfold bodyAllowance
  cases hlength : (r.textHeader? "content-length").bind
      fun v => Text.naturalBelow? Word.limit v.toList with
  | none => exact ⟨_, rfl, hbody⟩
  | some length =>
      obtain rfl := hstated length hlength
      exact ⟨_, if_neg (Nat.not_lt.mpr hbody), Nat.le_min.mpr ⟨hbody, Nat.le_refl _⟩⟩

variable (h : s.Submits r route form)

include h

theorem answer_status_ne_tooLarge (hbody : r.body.length ≤ s.maxBodyBytes)
    (hstated : ∀ length, statedLength? r = some length → length = r.body.length)
    (hdecode : ∀ size limit, s.codec.decode form ≠ .error (.tooLarge size limit)) :
    (s.answer store m r).1.status ≠ 413 := by
  obtain ⟨allowance, hallowance, hle⟩ := s.exists_bodyAllowance hbody hstated
  rcases s.answer_cases_of_submits store m h with ⟨hnone, _⟩ | ⟨_, hstatus⟩ |
    ⟨other, owner, hother, hreaches⟩
  · rw [hallowance] at hnone
    cases hnone
  · rw [hstatus]
    decide
  · rw [hallowance, Option.some.injEq] at hother
    subst hother
    rw [s.status_answer_of_reachesUpload store m hreaches, readForm_of_le h.body hle]
    exact s.answerUpload_status_ne_tooLarge store m owner hdecode

-- Whether or not the body is too long, an image that is too large is not stored; the client is told
-- that it is, unless there is something else to be told before.
theorem answer_status_ne_created (hdecode : ∀ decoded, s.codec.decode form ≠ .ok decoded) :
    (s.answer store m r).1.status ≠ 201 := by
  rcases s.answer_cases_of_submits store m h with ⟨_, hstatus⟩ | ⟨_, hstatus⟩ |
    ⟨allowance, owner, _, hreaches⟩
  · rw [hstatus]
    decide
  · rw [hstatus]
    decide
  · rw [s.status_answer_of_reachesUpload store m hreaches]
    by_cases hle : r.body.length ≤ allowance
    · rw [readForm_of_le h.body hle]
      exact s.answerUpload_status_ne_created store m owner hdecode
    · obtain ⟨reason, hlong⟩ := readForm_of_lt h.body (Nat.lt_of_not_le hle)
      rw [hlong]
      exact s.refuse_status_ne _

theorem answer_status_of_tooLarge (hkey : s.checkKey r = .ok ()) {owner : Owner}
    (howner : s.ownerOf m.now r = .ok owner) {size limit : Nat}
    (hdecode : s.codec.decode form = .error (.tooLarge size limit)) :
    (s.answer store m r).1.status = 413 := by
  rcases s.answer_cases_of_submits store m h with ⟨_, hstatus⟩ | ⟨hrefused, _⟩ |
    ⟨allowance, other, _, hreaches⟩
  · exact hstatus
  · exact absurd ⟨hkey, owner, howner⟩ hrefused
  · rw [s.status_answer_of_reachesUpload store m hreaches]
    by_cases hle : r.body.length ≤ allowance
    · rw [readForm_of_le h.body hle]
      exact s.answerUpload_status_of_tooLarge store m other hdecode
    · obtain ⟨reason, hlong⟩ := readForm_of_lt h.body (Nat.lt_of_not_le hle)
      rw [hlong]
      exact s.refuse_status _

end Requests

-- The limits on images and on bodies, and the bound on base64 text, go together. An image that is
-- not above the limit is let through by each of them, with as much around it as the overhead allows:
-- it is taken out of the body, and the request that brings it is never refused for its size. An image
-- above the limit is decoded in no form; the request that brings it is never granted, and refused for
-- its size if it is made by someone who may make it, with a folder and a name that are accepted.
theorem size_gates_in_order {libraries : Libraries} {settings : Settings} {inProduction : Bool}
    {s : Service} (hs : Service.ofSettings libraries settings inProduction = .ok s)
    (hlimit : settings.maxImageBytes * 4 < Word.limit) :
    (∀ n ≤ settings.maxImageBytes,
      (∀ framing ≤ 65536, n + framing ≤ s.maxBodyBytes) ∧
      (∀ others ≤ 65534, (n + 2) / 3 * 4 + others ≤ s.maxBodyBytes) ∧
      overGuard s.codec.maxImageBytes ((n + 2) / 3 * 4) = .ok false ∧
      ∀ bytes : ByteArray, bytes.size = n → ∀ declaredType size limit,
        s.codec.image bytes declaredType ≠ .error (.tooLarge size limit)) ∧
    (∀ form decoded bytes, s.codec.decode form = .ok decoded →
      StandsFor form.payload bytes → bytes.size ≤ settings.maxImageBytes) ∧
    ∀ r route form bytes, s.Submits r route form →
      (MakesUp r.body.length form.payload bytes → bytes.size ≤ settings.maxImageBytes →
        (∃ declaredType, s.codec.content form.payload = .ok (bytes, declaredType)) ∧
        ((∀ length, statedLength? r = some length → length = r.body.length) →
          ∀ store m, (s.answer store m r).1.status ≠ 413)) ∧
      (StandsFor form.payload bytes → settings.maxImageBytes < bytes.size →
        ∀ store m, (s.answer store m r).1.status ≠ 201 ∧
          (s.checkKey r = .ok () → (∃ owner, s.ownerOf m.now r = .ok owner) →
            (∃ place, TakesFolder s.codec.defaultFolder form.folder place) →
            (∃ found, TakesName form.name found) →
            (s.answer store m r).1.status = 413)) := by
  obtain ⟨folder, hcodec⟩ := (follows_of_ofSettings hs).codec
  have hmax : s.codec.maxImageBytes = settings.maxImageBytes := by
    rw [hcodec]
    rfl
  have hbody := maxBodyBytes_of_ofSettings hs
  have hfits := maxEncoded_fits hlimit
  rw [← hmax] at hfits hlimit hbody ⊢
  refine ⟨fun n hn => ⟨fun framing hframing => ?_, fun others hothers => ?_, ?_, ?_⟩, ?_, ?_⟩
  · rw [hbody]
    exact part_le_bodyLimit hlimit hn hframing
  · rw [hbody]
    exact encoded_le_bodyLimit hlimit hn (Nat.add_le_add_right hothers 2)
  · rw [overGuard_of_fits hfits (by omega)]
    exact congrArg Except.ok (decide_eq_false (not_not_intro (underGuard_of_le (by omega))))
  · intro bytes hbytes
    exact s.codec.image_ne_tooLarge (by omega)
  · intro form decoded bytes hdecode hstands
    exact s.codec.size_le_of_decode hfits hdecode hstands
  · intro r route form bytes hsubmits
    refine ⟨fun hmakes hsmall => ?_, fun hstands hlarge store m => ⟨?_, ?_⟩⟩
    · obtain ⟨hroom, declaredType, hcontent⟩ := hmakes.fits hlimit hsmall
      refine ⟨⟨declaredType, hcontent⟩, fun hstated store m => ?_⟩
      exact s.answer_status_ne_tooLarge store m hsubmits (hbody ▸ hroom) hstated
        (s.codec.decode_ne_tooLarge hcontent hsmall)
    · refine s.answer_status_ne_created store m hsubmits fun decoded hdecode => ?_
      exact Nat.not_le.mpr hlarge (s.codec.size_le_of_decode hfits hdecode hstands)
    · rintro hkey ⟨owner, howner⟩ ⟨place, hplace⟩ ⟨found, hfound⟩
      obtain ⟨size, hdecode⟩ := s.codec.decode_of_large hfits hstands hlarge hplace hfound
      exact s.answer_status_of_tooLarge store m hsubmits hkey howner hdecode

-- Settings with a limit of one's choice, and the service that they ask for.
def limitedSettings (maxImageBytes : Nat) : Settings := { Settings.sample with maxImageBytes }

def limitedTo (maxImageBytes : Nat) : Service :=
  { ofSample with
    codec := .new ImageAddress.sample.folder maxImageBytes [" Image/GIF"]
    maxBodyBytes := bodyLimit maxImageBytes }

-- The request that brings an image of six bytes is refused for its size where five are the limit,
-- and not where six are.
theorem size_gates_at_six_bytes :
    Service.ofSettings .sample (limitedSettings 6) true = .ok (limitedTo 6) ∧
      (limitedSettings 6).maxImageBytes * 4 < Word.limit ∧
      Service.ofSettings .sample (limitedSettings 5) true = .ok (limitedTo 5) ∧
      (limitedSettings 5).maxImageBytes * 4 < Word.limit ∧
      ∀ store, ((limitedTo 6).answer store .sample uploadRequest).1.status ≠ 413 ∧
        ((limitedTo 5).answer store .sample uploadRequest).1.status = 413 := by
  let bytes : ByteArray := ⟨#[71, 73, 70, 56, 57, 97]⟩
  have hsix : Service.ofSettings .sample (limitedSettings 6) true = .ok (limitedTo 6) := rfl
  have hfive : Service.ofSettings .sample (limitedSettings 5) true = .ok (limitedTo 5) := rfl
  have hsix' : (limitedSettings 6).maxImageBytes * 4 < Word.limit := by decide
  have hfive' : (limitedSettings 5).maxImageBytes * 4 < Word.limit := by decide
  have hroute : Route.ofPath uploadRequest.path = some .base64Upload := by decide +kernel
  have hsubmits (maxImageBytes : Nat) :
      (limitedTo maxImageBytes).Submits uploadRequest .base64Upload
        ⟨none, some "a.png", .base64 "R0lGODlh"⟩ := ⟨rfl, hroute, rfl, rfl⟩
  have htext : base64Text bytes = "R0lGODlh" := by decide +kernel
  have hcarries : Carries "R0lGODlh" bytes := htext ▸ carries_base64Text bytes
  have hkey : (limitedTo 5).checkKey uploadRequest = .ok () := rfl
  have howner : ((limitedTo 5).ownerOf Moment.sample.now uploadRequest).toOption =
      some ImageAddress.sample.owner := by decide +kernel
  have hunstated : ∀ length, statedLength? uploadRequest = some length →
      length = uploadRequest.body.length := by
    have hnone : statedLength? uploadRequest = none := by decide +kernel
    rw [hnone]
    nofun
  have hmakes : MakesUp uploadRequest.body.length (.base64 "R0lGODlh") bytes :=
    .encoded hcarries (by decide +kernel)
  obtain ⟨_, _, hgates⟩ := size_gates_in_order hsix hsix'
  obtain ⟨_, _, hgates'⟩ := size_gates_in_order hfive hfive'
  refine ⟨hsix, hsix', hfive, hfive', fun store => ⟨?_, ?_⟩⟩
  · exact ((hgates _ _ _ _ (hsubmits 6)).1 hmakes (by decide)).2 hunstated store _
  · refine ((hgates' _ _ _ _ (hsubmits 5)).2 hcarries.standsFor (by decide) store _).2 hkey ?_ ?_ ?_
    · exact ⟨_, Except.eq_ok_of_toOption_eq_some howner⟩
    · exact ⟨_, .missing⟩
    · exact ⟨_, .given ImageAddress.sample.name⟩

end Service

end Gallery
