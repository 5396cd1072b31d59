import Gallery.Proofs.Address.Checks
import Gallery.Proofs.Service.ErrorBody

-- What the store is asked for the sake of a request to read. A path with a word that is no segment
-- is refused with nothing asked. For any other there is one question, about the very place that
-- its words stand for. How the store is asked is left open here: the statements hold in every
-- monad, so also in one that keeps count of the questions.

namespace Gallery

open Http

namespace Route

-- The path is one to read from, and its words stand for these texts.
inductive ReadsFrom : Route → String → String → Option String → Prop where
  | folder {first second owner folder : String}
      (h : decodeWords (Route.folder first second).words = .ok [owner, folder]) :
      ReadsFrom (.folder first second) owner folder none
  | image {first second third owner folder name : String}
      (h : decodeWords (Route.image first second third).words = .ok [owner, folder, name]) :
      ReadsFrom (.image first second third) owner folder (some name)

theorem decodeWords_cons_eq_ok {name word text : String} {rest : List (String × String)}
    {texts : List String} (h : decodeWords ((name, word) :: rest) = .ok (text :: texts)) :
    decodeWord? word = some text ∧ decodeWords rest = .ok texts := by
  rw [decodeWords] at h
  split at h
  · rename_i found hfound
    obtain ⟨others, hrest, hcons⟩ := Except.map_eq_ok_iff.mp h
    cases hcons
    exact ⟨hfound, hrest⟩
  · cases h

theorem decodeWord?_ne_empty {word text : String} (h : decodeWord? word = some text)
    (hword : word ≠ "") : text ≠ "" := by
  rw [decodeWord?, Text.ofUtf8?_mk_eq_some_iff] at h
  rintro rfl
  have hnone : Text.utf8 word = [] := Text.percentDecode_eq_nil_iff.mp h
  exact hword (Text.utf8_injective hnone)

theorem name_ne_empty_of_ofWords {words : List String} {first second third : String}
    (h : ofWords words = some (.image first second third)) : third ≠ "" := by
  unfold ofWords at h
  split at h
  case h_5 =>
    split at h
    · cases h
    · rename_i hfilled
      cases h
      exact String.isEmpty_eq_false_iff.mp (Bool.not_eq_true _ ▸ hfilled)
  case h_4 => split at h <;> cases h
  all_goals cases h

-- A path that ends in a slash is one of a folder, so whoever gives a name gives a text.
theorem name_ne_empty {path : String} {route : Route} {owner folder name : String}
    (hroute : ofPath path = some route) (h : route.ReadsFrom owner folder (some name)) :
    name ≠ "" := by
  cases h with
  | image hwords =>
      have hthird := (decodeWords_cons_eq_ok (decodeWords_cons_eq_ok
        (decodeWords_cons_eq_ok hwords).2).2).1
      refine decodeWord?_ne_empty hthird ?_
      unfold ofPath at hroute
      dsimp only at hroute
      split at hroute
      · cases hroute
      split at hroute
      · cases hroute
      split at hroute
      · cases hroute
      split at hroute
      · exact name_ne_empty_of_ofWords hroute
      · cases hroute

end Route

namespace Service

variable (s : Service) {owner folder : String} {role : Coordinate} {raw : String}
  {e : SegmentError}

section Questions

variable {M : Type → Type} [Monad M] [LawfulMonad M] (reads : Reads M)

theorem retrieveVia_of_firstBad {name : Option String} (hname : name ≠ some "")
    (h : FirstBad (pathWords owner folder name) role raw e) :
    s.retrieveVia reads owner folder name = pure (.error (e.toServiceError role raw)) := by
  cases name with
  | none =>
      have haddress := FolderAddress.ofPath_of_firstBad h
      simp only [retrieveVia, listingVia, haddress, map_pure]
      rfl
  | some name =>
      have hfilled : name ≠ "" := fun hempty => hname (congrArg some hempty)
      have haddress := ImageAddress.ofPath_of_firstBad h
      simp only [s.retrieveVia_of_ne_empty reads owner folder hfilled, imageVia, haddress, map_pure]
      rfl

theorem readVia_of_firstBad {name : Option String} (hname : name ≠ some "")
    (h : FirstBad (pathWords owner folder name) role raw e) :
    s.readVia reads owner folder name = pure (s.refuse (e.toServiceError role raw)) := by
  rw [readVia, s.retrieveVia_of_firstBad reads hname h, map_pure]
  rfl

theorem readVia_image (a : ImageAddress) :
    s.readVia reads a.owner.text a.folder.text (some a.name.text) =
      s.imageReply <$> reads.get a := by
  rw [readVia, s.retrieveVia_of_ne_empty reads _ _ a.name.text_ne_empty, imageVia_text,
    Functor.map_map, Functor.map_map]
  congr 1
  funext found
  cases found <;> rfl

theorem readVia_folder (a : FolderAddress) :
    s.readVia reads a.owner.text a.folder.text none =
      (fun found => s.folderReply ((found.mapError StoreError.toServiceError).map (s.withUrls a))) <$>
        reads.list a := by
  have hlisting : s.retrieveVia reads a.owner.text a.folder.text none =
      (·.map .listing) <$> s.listingVia reads a.owner.text a.folder.text := rfl
  rw [readVia, hlisting, listingVia_text, Functor.map_map, Functor.map_map]
  congr 1
  funext found
  cases found <;> rfl

end Questions

-- The request is refused for a word of its path. Nothing is asked of the store, however it is
-- reached, so the client is told the same whatever it holds.
structure RefusesUnasked (r : Request) (owner folder : String) (name : Option String)
    (role : Coordinate) (raw : String) (e : SegmentError) : Prop where
  unasked : ∀ {M : Type → Type} [Monad M] [LawfulMonad M] (reads : Reads M),
    s.readVia reads owner folder name = pure (s.refuse (e.toServiceError role raw))
  status : ∀ store m, (s.answer store m r).1.status = 400
  tells : ∃ report, report.code = "INVALID_PATH" ∧
    report.error = "invalid " ++ role.shown ++ " " ++ Text.quoted raw ++ ": " ++ e.message ∧
    ∀ store m, Tells r (s.answer store m r).1 report
  same : ∀ store store' m, (s.answer store m r).1 = (s.answer store' m r).1

-- The store is asked once: for the image that the path names, or for the folder if it names none.
inductive AsksOnce (r : Request) : String → String → Option String → Prop where
  | image (a : ImageAddress)
      (asked : ∀ {M : Type → Type} [Monad M] [LawfulMonad M] (reads : Reads M),
        s.readVia reads a.owner.text a.folder.text (some a.name.text) =
          s.imageReply <$> reads.get a)
      (missing : ∀ store images, store.Holds images → images a = none →
        ∃ report, report.code = "NOT_FOUND" ∧ ∀ m,
          (s.answer store m r).1.status = 404 ∧ Tells r (s.answer store m r).1 report) :
      AsksOnce r a.owner.text a.folder.text (some a.name.text)
  | folder (a : FolderAddress)
      (asked : ∀ {M : Type → Type} [Monad M] [LawfulMonad M] (reads : Reads M),
        s.readVia reads a.owner.text a.folder.text none =
          (fun found =>
            s.folderReply ((found.mapError StoreError.toServiceError).map (s.withUrls a))) <$>
          reads.list a) :
      AsksOnce r a.owner.text a.folder.text none

variable {s} {r : Request} {name : Option String}

-- What the client is told of an error, if the answer is its refusal.
theorem told_of_refuse {store : Store} {m : Moment} {e : ServiceError} (hspeaks : e.Speaks)
    (h : (s.answer store m r).1 = finish m r (s.origins.mark r (s.refuse e))) :
    (s.answer store m r).1.status = e.presentation.status ∧
      Tells r (s.answer store m r).1 (ErrorReport.of s.inProduction e) := by
  rw [h]
  exact ⟨(s.status_reply m _).trans (s.refuse_status e), s.tells_refuse m r hspeaks⟩

theorem refusesUnasked (hname : name ≠ some "")
    (hanswer : ∀ store m, s.answer store m r = (finish m r (s.origins.mark r
      (Id.run (s.readVia store.reads owner folder name))), store))
    (h : FirstBad (pathWords owner folder name) role raw e) :
    s.RefusesUnasked r owner folder name role raw e := by
  have hrefused : ∀ store m, (s.answer store m r).1 =
      finish m r (s.origins.mark r (s.refuse (e.toServiceError role raw))) := by
    intro store m
    rw [hanswer, s.readVia_of_firstBad _ hname h]
    rfl
  have htold := fun store m => told_of_refuse (e.speaks role raw) (hrefused store m)
  refine ⟨fun reads => s.readVia_of_firstBad reads hname h, fun store m => (htold store m).1,
    ⟨_, rfl, rfl, fun store m => (htold store m).2⟩, fun store store' m => ?_⟩
  rw [hrefused, hrefused]

theorem asksOnce
    (hanswer : ∀ store m, s.answer store m r = (finish m r (s.origins.mark r
      (Id.run (s.readVia store.reads owner folder name))), store))
    (h : ∀ word ∈ pathWords owner folder name, Segment.Grammatical word.2) :
    s.AsksOnce r owner folder name := by
  obtain ⟨o, rfl⟩ := Segment.exists_of_grammatical .owner (h (.owner, owner) (by simp [pathWords]))
  obtain ⟨f, rfl⟩ :=
    Segment.exists_of_grammatical .folder (h (.folder, folder) (by simp [pathWords]))
  cases name with
  | none => exact .folder ⟨o, f⟩ fun reads => s.readVia_folder reads ⟨o, f⟩
  | some name =>
      obtain ⟨n, rfl⟩ := Segment.exists_of_grammatical .name (h (.name, name) (by simp [pathWords]))
      have hasked {M : Type → Type} [Monad M] [LawfulMonad M] (reads : Reads M) :=
        s.readVia_image reads ⟨o, f, n⟩
      refine .image ⟨o, f, n⟩ hasked fun store images hholds hnone => ?_
      have hget : store.get ⟨o, f, n⟩ = .error (.notFound (ImageAddress.mk o f n).key) := by
        rw [hholds.get, Contents.read, hnone]
        rfl
      have hmissing : ∀ m, (s.answer store m r).1 = finish m r (s.origins.mark r
          (s.refuse (StoreError.notFound (ImageAddress.mk o f n).key).toServiceError)) := by
        intro m
        have hrun : Id.run (s.imageReply <$> store.reads.get ⟨o, f, n⟩) =
            s.imageReply (store.get ⟨o, f, n⟩) := rfl
        rw [hanswer, hasked, hrun, hget]
        rfl
      have hkey : StoreError.notFound (ImageAddress.mk o f n).key ≠ .invalidKey "" := by
        intro h
        cases h
      have hspeaks := StoreError.speaks hkey
      have htold := fun m => told_of_refuse hspeaks (hmissing m)
      exact ⟨_, rfl, htold⟩

-- A request that comes as far as its route is answered with what is read for the texts of its path.
theorem answer_of_reads (hget : r.method = "GET") (hkey : s.checkKey r = .ok ())
    (hlimit : s.bodyAllowance r ≠ none) {route : Route} (hroute : Route.ofPath r.path = some route)
    (hwords : route.ReadsFrom owner folder name) (store : Store) (m : Moment) :
    s.answer store m r = (finish m r (s.origins.mark r
      (Id.run (s.readVia store.reads owner folder name))), store) := by
  obtain ⟨allowance, hanswer⟩ := s.exists_answer_eq_handler store m hget hkey hlimit hroute
  rw [hanswer]
  cases hwords with
  | folder hwords =>
      simp only [handler, answerKeyed, Route.isOpen, Route.isUpload, Route.serves, hget]
      rw [Route.words] at hwords
      simp [answerFolder, hwords]
  | image hwords =>
      simp only [handler, answerKeyed, Route.isOpen, Route.isUpload, Route.serves, hget]
      rw [Route.words] at hwords
      simp [answerImage, hwords]

theorem answer_of_long_body (hget : r.method = "GET") (hlimit : s.bodyAllowance r = none)
    (store : Store) (m : Moment) :
    s.answer store m r =
      (finish m r (s.origins.mark r (.plain 413 "length limit exceeded")), store) := by
  have hoptions : r.method ≠ "OPTIONS" := by
    rw [hget]
    decide
  rw [answer_eq_answerVia, answerVia, if_neg hoptions, hlimit]

-- The words of a path are checked before the store is asked. A request with a key is refused for
-- the first word that is no segment, and nothing is asked; else the store is asked for the one
-- place that the words stand for. Only a request that itself says its body is too long does not
-- come as far as that, and then nothing is asked either.
theorem words_checked_before_store (hget : r.method = "GET")
    (hkey : ∃ key, r.textHeader? keyHeader = some key ∧ key ∈ s.keys.accepted)
    {route : Route} (hroute : Route.ofPath r.path = some route)
    (hwords : route.ReadsFrom owner folder name) :
    (s.bodyAllowance r = none → ∀ store m, s.answer store m r =
      (finish m r (s.origins.mark r (.plain 413 "length limit exceeded")), store)) ∧
    (s.bodyAllowance r ≠ none →
      (∀ store m, s.answer store m r = (finish m r (s.origins.mark r
        (Id.run (s.readVia store.reads owner folder name))), store)) ∧
      ((∃ word ∈ pathWords owner folder name, ¬Segment.Grammatical word.2) →
        ∃ role raw e, FirstBad (pathWords owner folder name) role raw e ∧
          s.RefusesUnasked r owner folder name role raw e) ∧
      ((∀ word ∈ pathWords owner folder name, Segment.Grammatical word.2) →
        s.AsksOnce r owner folder name)) := by
  obtain ⟨key, hheader, hmem⟩ := hkey
  have hok : s.checkKey r = .ok () :=
    (s.checkKey_eq_ok_iff r).mpr ⟨key, hheader, List.contains_iff_mem.mpr hmem⟩
  refine ⟨fun hlimit => answer_of_long_body hget hlimit, fun hlimit => ?_⟩
  have hanswer := answer_of_reads hget hok hlimit hroute hwords
  refine ⟨hanswer, fun hbad => ?_, asksOnce hanswer⟩
  obtain ⟨role, raw, e, hfirst⟩ := exists_firstBad hbad
  have hname : name ≠ some "" := by
    rintro rfl
    exact Route.name_ne_empty hroute hwords rfl
  exact ⟨role, raw, e, hfirst, refusesUnasked hname hanswer hfirst⟩

-- The folder has a slash in it, written as `%2F`, so nothing is asked: no question is counted.
theorem words_checked_before_store_for_slash :
    let r := readRequest "/api/v0/images/u1/a%2Fb/x.png"
    r.method = "GET" ∧ (∃ key, r.textHeader? keyHeader = some key ∧ key ∈ sample.keys.accepted) ∧
      Route.ofPath r.path = some (.image "u1" "a%2Fb" "x.png") ∧
      (Route.image "u1" "a%2Fb" "x.png").ReadsFrom "u1" "a/b" (some "x.png") ∧
      (∀ reads : Reads (StateM Nat),
        ((sample.readVia reads "u1" "a/b" (some "x.png")).run 0).2 = 0) ∧
      ∀ store, (sample.answer store .sample r).1.status = 400 := by
  intro r
  have hkey : ∃ key, r.textHeader? keyHeader = some key ∧ key ∈ sample.keys.accepted :=
    ⟨"key", by decide +kernel, by decide⟩
  have hroute : Route.ofPath r.path = some (.image "u1" "a%2Fb" "x.png") := by decide +kernel
  have hwords : (Route.image "u1" "a%2Fb" "x.png").ReadsFrom "u1" "a/b" (some "x.png") :=
    .image (by decide +kernel)
  have hlimit : sample.bodyAllowance r ≠ none := by decide +kernel
  have hbad : ∃ word ∈ pathWords "u1" "a/b" (some "x.png"), ¬Segment.Grammatical word.2 := by
    refine ⟨(.folder, "a/b"), by decide, fun h => ?_⟩
    exact absurd ((Segment.fault?_eq_none_iff_grammatical _).mpr h) (by decide +kernel)
  obtain ⟨role, raw, e, _, hrefuses⟩ :=
    ((words_checked_before_store rfl hkey hroute hwords).2 hlimit).2.1 hbad
  refine ⟨rfl, hkey, hroute, hwords, fun reads => ?_, fun store => hrefuses.status store .sample⟩
  rw [hrefuses.unasked reads]
  rfl

-- A request that says its body is too long is not told about the bad word.
theorem words_unchecked_of_long_body :
    let r : Request := ⟨"GET", "/api/v0/images/u1/a%2Fb/x.png",
      [.ofText "content-length" "99999999999", .ofText keyHeader "key"], []⟩
    (∃ key, r.textHeader? keyHeader = some key ∧ key ∈ sample.keys.accepted) ∧
      Route.ofPath r.path = some (.image "u1" "a%2Fb" "x.png") ∧
      (Route.image "u1" "a%2Fb" "x.png").ReadsFrom "u1" "a/b" (some "x.png") ∧
      ¬Segment.Grammatical "a/b" ∧
      (sample.answer (.memory .empty) .sample r).1.status = 413 := by
  intro r
  have hbad : ¬Segment.Grammatical "a/b" := fun h =>
    absurd ((Segment.fault?_eq_none_iff_grammatical _).mpr h) (by decide +kernel)
  exact ⟨⟨"key", by decide +kernel, by decide⟩, by decide +kernel, .image (by decide +kernel), hbad,
    by decide +kernel⟩

end Service

end Gallery
