import Gallery.Proofs.Service.Upload
import Gallery.Proofs.Store.Holds

namespace Gallery

-- A call for an upload: whose it is, what it carries, and what it meets with.
structure UploadCall where
  moment : Moment
  owner : Owner
  form : UploadForm

-- A call with what came of it.
structure UploadRecord where
  call : UploadCall
  result : Except ServiceError StoredUpload

namespace UploadRecord

-- The upload that the call brought to an address, if it brought one there.
def storedAt? (r : UploadRecord) (a : ImageAddress) : Option StoredUpload :=
  match r.result with
  | .ok stored => if stored.address = a then some stored else none
  | .error _ => none

theorem storedAt?_eq_some_iff (r : UploadRecord) (a : ImageAddress) (stored : StoredUpload) :
    r.storedAt? a = some stored ↔ r.result = .ok stored ∧ stored.address = a := by
  unfold storedAt?
  cases r.result with
  | error e => simp
  | ok other =>
      by_cases ha : other.address = a
      · simp only [ha, if_true, Option.some.injEq, Except.ok.injEq]
        constructor
        · rintro rfl
          exact ⟨rfl, ha⟩
        · exact And.left
      · simp only [ha, if_false, Except.ok.injEq]
        constructor
        · intro h
          cases h
        · rintro ⟨rfl, h⟩
          exact absurd h ha

-- The last call that brought something to an address, and what it brought.
def lastAt? (a : ImageAddress) : List UploadRecord → Option (UploadCall × StoredUpload)
  | [] => none
  | r :: rest => (lastAt? a rest).or ((r.storedAt? a).map fun stored => (r.call, stored))

theorem lastAt?_eq_none_iff (a : ImageAddress) (records : List UploadRecord) :
    lastAt? a records = none ↔ ∀ r ∈ records, r.storedAt? a = none := by
  induction records with
  | nil => simp [lastAt?]
  | cons r rest ih =>
      rw [lastAt?, Option.or_eq_none_iff, ih, Option.map_eq_none_iff, List.forall_mem_cons]
      exact and_comm

-- Nothing that came later was brought to the same address.
theorem lastAt?_eq_some_iff (a : ImageAddress) (records : List UploadRecord) (call : UploadCall)
    (stored : StoredUpload) :
    lastAt? a records = some (call, stored) ↔
      ∃ before after, records = before ++ ⟨call, .ok stored⟩ :: after ∧ stored.address = a ∧
        ∀ r ∈ after, r.storedAt? a = none := by
  induction records with
  | nil => simp [lastAt?]
  | cons r rest ih =>
      rw [lastAt?, Option.or_eq_some_iff, ih, lastAt?_eq_none_iff]
      constructor
      · rintro (⟨before, after, rfl, ha, hafter⟩ | ⟨hrest, hr⟩)
        · exact ⟨r :: before, after, rfl, ha, hafter⟩
        · obtain ⟨found, hfound, hpair⟩ := Option.map_eq_some_iff.mp hr
          obtain ⟨hresult, ha⟩ := (r.storedAt?_eq_some_iff a found).mp hfound
          cases hpair
          exact ⟨[], rest, by rw [← hresult]; rfl, ha, hrest⟩
      · rintro ⟨before, after, hsplit, ha, hafter⟩
        cases before with
        | nil =>
            rw [List.nil_append, List.cons.injEq] at hsplit
            obtain ⟨rfl, rfl⟩ := hsplit
            refine Or.inr ⟨hafter, ?_⟩
            rw [(storedAt?_eq_some_iff _ a stored).mpr ⟨rfl, ha⟩]
            rfl
        | cons first before =>
            rw [List.cons_append, List.cons.injEq] at hsplit
            exact Or.inl ⟨before, after, hsplit.2, ha, hafter⟩

theorem exists_lastAt?_iff (a : ImageAddress) (records : List UploadRecord) :
    (∃ call stored, lastAt? a records = some (call, stored)) ↔
      ∃ r ∈ records, ∃ stored, r.result = .ok stored ∧ stored.address = a := by
  constructor
  · rintro ⟨call, stored, hlast⟩
    obtain ⟨before, after, rfl, ha, _⟩ := (lastAt?_eq_some_iff a records call stored).mp hlast
    exact ⟨_, List.mem_append_cons_self, stored, rfl, ha⟩
  · rintro ⟨r, hr, stored, hstored⟩
    cases hlast : lastAt? a records with
    | none =>
        have hnone := (lastAt?_eq_none_iff a records).mp hlast r hr
        rw [(r.storedAt?_eq_some_iff a stored).mpr hstored] at hnone
        cases hnone
    | some last => exact ⟨last.1, last.2, rfl⟩

end UploadRecord

namespace Service

variable (s : Service)

-- One upload after another, and the store after them all.
def uploads (store : Store) : List UploadCall → List UploadRecord × Store
  | [] => ([], store)
  | c :: rest =>
    let (result, store) := s.upload store c.moment c.owner c.form
    let (records, store) := uploads store rest
    (⟨c, result⟩ :: records, store)

-- An image in the store is what the last upload to its address carried.
inductive Shows (a : ImageAddress) (before : Option StoredImage) :
    Option (UploadCall × StoredUpload) → Option StoredImage → Prop where
  | untouched : Shows a before none before
  | uploaded {call : UploadCall} {decoded : DecodedUpload}
      (hdecode : s.codec.decode call.form = .ok decoded) (hasks : decoded.AsksFor call.owner a) :
      Shows a before (some (call, s.stored call.moment a decoded.image))
        (some (kept call.moment decoded.image))

variable {s}

theorem Shows.isSome_eq {a : ImageAddress} {last : Option (UploadCall × StoredUpload)}
    {found : Option StoredImage} (h : s.Shows a none last found) : found.isSome = last.isSome := by
  cases h <;> rfl

theorem Shows.of_found {a : ImageAddress} {last : Option (UploadCall × StoredUpload)}
    {image : StoredImage} (h : s.Shows a none last (some image)) :
    ∃ call decoded, s.codec.decode call.form = .ok decoded ∧ decoded.AsksFor call.owner a ∧
      last = some (call, s.stored call.moment a decoded.image) ∧
      image = kept call.moment decoded.image := by
  cases h with
  | uploaded hdecode hasks => exact ⟨_, _, hdecode, hasks, rfl, rfl⟩

variable (s)

variable {store : Store} {images : Contents}

-- A single upload either fails and leaves the store as it is, or puts its image into it.
theorem upload_of_holds (h : store.Holds images) (c : UploadCall) :
    (∃ e, s.upload store c.moment c.owner c.form = (.error e, store)) ∨
      ∃ decoded a store', s.codec.decode c.form = .ok decoded ∧
        decoded.AsksFor c.owner a ∧
        s.upload store c.moment c.owner c.form =
          (.ok (s.stored c.moment a decoded.image), store') ∧
        store'.Holds (images.put a (kept c.moment decoded.image)) := by
  rcases s.upload_cases store c.moment c.owner c.form with
    ⟨e, _, hfail⟩ | ⟨decoded, a, hdecode, hasks, hupload⟩
  · exact Or.inl ⟨e, hfail⟩
  · obtain ⟨store', hput, hholds⟩ := h.put a decoded.image.bytes c.moment.now c.moment.fileId
      decoded.image.sniffed.contentType_short
    rw [hput] at hupload
    exact Or.inr ⟨decoded, a, store', hdecode, hasks, hupload, hholds⟩

theorem uploads_hold (h : store.Holds images) (calls : List UploadCall) :
    ∃ images', (s.uploads store calls).2.Holds images' ∧
      ∀ a, s.Shows a (images a) (UploadRecord.lastAt? a (s.uploads store calls).1) (images' a) := by
  induction calls generalizing store images with
  | nil => exact ⟨images, h, fun a => .untouched⟩
  | cons c rest ih =>
      rcases s.upload_of_holds h c with ⟨e, hfail⟩ | ⟨decoded, a, store', hdecode, hasks, hok, hholds⟩
      · obtain ⟨images', hholds', hshows⟩ := ih h
        simp only [uploads, hfail]
        refine ⟨images', hholds', fun b => ?_⟩
        rw [UploadRecord.lastAt?]
        simpa [UploadRecord.storedAt?] using hshows b
      · obtain ⟨images', hholds', hshows⟩ := ih hholds
        simp only [uploads, hok]
        refine ⟨images', hholds', fun b => ?_⟩
        have hb := hshows b
        rw [UploadRecord.lastAt?]
        generalize UploadRecord.lastAt? b (s.uploads store' rest).1 = last at hb
        generalize images' b = found at hb
        cases hb with
        | uploaded hlater hlaterAsks => exact .uploaded hlater hlaterAsks
        | untouched =>
            by_cases hab : a = b
            · subst hab
              have hstored : UploadRecord.storedAt? ⟨c, .ok (s.stored c.moment a decoded.image)⟩ a =
                  some (s.stored c.moment a decoded.image) :=
                (UploadRecord.storedAt?_eq_some_iff _ _ _).mpr ⟨rfl, rfl⟩
              rw [hstored, Contents.put_self]
              exact .uploaded hdecode hasks
            · have hstored : UploadRecord.storedAt? ⟨c, .ok (s.stored c.moment a decoded.image)⟩ b =
                  none := if_neg hab
              rw [hstored, Contents.put_of_ne _ _ (Ne.symm hab)]
              exact .untouched

end Service

-- Uploads of one owner to show general statements at: an image, one whose name begins with the name
-- of the first, one in a folder whose name begins with the name of its folder, what replaces the
-- first, and an upload in its place that is refused.
def UploadCall.sample (folder name : String) (now : Instant) (bytes : ByteArray) : UploadCall where
  moment := { Moment.sample with now }
  owner := ImageAddress.sample.owner
  form := ⟨some folder, some name, .multipart bytes none⟩

def UploadCall.samples : List UploadCall :=
  [.sample "avatars" "a.png" .epoch ⟨#[71, 73, 70, 56, 55, 97]⟩,
    .sample "avatars" "a.png.gif" .epoch ⟨#[71, 73, 70, 56, 55, 97]⟩,
    .sample "avatars2" "b.png" .epoch ⟨#[71, 73, 70, 56, 55, 97]⟩,
    .sample "avatars" "a.png" ⟨1, 0, rfl⟩ ⟨#[71, 73, 70, 56, 57, 97, 0]⟩,
    .sample "avatars" "a.png" ⟨2, 0, rfl⟩ .empty]

end Gallery
