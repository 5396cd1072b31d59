import Gallery.Access.Token
import Gallery.Address.Resolution
import Gallery.Proofs.Store.Files.Reads
import Gallery.Store
import Gallery.Upload.Codec
import Gallery.Upload.FormData

namespace Gallery

-- A client is told something.
def ServiceError.Speaks (e : ServiceError) : Prop := e.clientMessage ≠ ""

theorem ServiceError.code_ne_empty (e : ServiceError) : e.presentation.code ≠ "" := by
  cases e <;> exact ne_of_beq_false rfl

-- Whichever error something ends in, the client is told something.
def FailuresSpeak {α : Type} (x : Except ServiceError α) : Prop := ∀ e, x = .error e → e.Speaks

namespace FailuresSpeak

variable {ε α β : Type}

theorem ok (a : α) : FailuresSpeak (.ok a) := nofun

theorem error {e : ServiceError} (h : e.Speaks) :
    FailuresSpeak (.error e : Except ServiceError α) := by
  intro e' he
  cases he
  exact h

theorem bind {x : Except ServiceError α} {f : α → Except ServiceError β} (hx : FailuresSpeak x)
    (hf : ∀ a, FailuresSpeak (f a)) : FailuresSpeak (x >>= f) := by
  cases x with
  | ok a => exact hf a
  | error e => exact error (hx e rfl)

theorem mapError {x : Except ε α} {f : ε → ServiceError} (h : ∀ e, x = .error e → (f e).Speaks) :
    FailuresSpeak (x.mapError f) := by
  cases x with
  | ok a => exact ok a
  | error e => exact error (h e rfl)

theorem map {x : Except ServiceError α} (f : α → β) (h : FailuresSpeak x) :
    FailuresSpeak (x.map f) := fun e he => h e (Except.map_eq_error_iff.mp he)

end FailuresSpeak

theorem Text.append_ne_empty {start : String} (h : start ≠ "") (rest : String) :
    start ++ rest ≠ "" := by
  rw [ne_eq, String.append_eq_empty_iff]
  exact fun hboth => h hboth.1

open Text (append_ne_empty)

theorem CodecError.message_ne_empty (e : CodecError) : e.message ≠ "" := by
  cases e with
  | emptyImage => decide
  | overflow cause => cases cause <;> decide
  | invalidEncoding cause => exact append_ne_empty (by decide) _
  | invalidFolder raw reason =>
      exact append_ne_empty (append_ne_empty (append_ne_empty (by decide) _) _) _
  | invalidName raw reason =>
      exact append_ne_empty (append_ne_empty (append_ne_empty (by decide) _) _) _
  | tooLarge size limit =>
      exact append_ne_empty (append_ne_empty (append_ne_empty (append_ne_empty (by decide) _) _) _) _
  | unsupportedMediaType contentType allowed =>
      exact append_ne_empty (append_ne_empty (append_ne_empty (append_ne_empty (by decide) _) _) _) _

theorem CodecError.speaks (task : Nat) (e : CodecError) : (e.toServiceError task).Speaks := by
  have hmessage := e.message_ne_empty
  cases e with
  | overflow cause => exact ne_of_beq_false rfl
  | _ => exact hmessage

theorem FormError.speaks (e : FormError) : e.toServiceError.Speaks := by
  cases e with
  | parts e => exact append_ne_empty (by decide) _
  | secondImage => exact ne_of_beq_false rfl
  | noImage => exact ne_of_beq_false rfl

theorem Access.TokenError.speaks (e : TokenError) : e.toServiceError.Speaks := by
  cases e with
  | base64 cause => exact append_ne_empty (by decide) _
  | json message => exact append_ne_empty (by decide) _
  | subject reason => exact append_ne_empty (by decide) _
  | _ => exact ne_of_beq_false rfl

theorem StoreError.speaks {e : StoreError} (h : e ≠ .invalidKey "") : e.toServiceError.Speaks := by
  cases e with
  | notFound what =>
      intro hnone
      exact absurd (String.append_eq_empty_iff.mp hnone).2 (by decide)
  | invalidKey reason =>
      intro hreason
      exact h (congrArg StoreError.invalidKey hreason)
  | _ => exact ne_of_beq_false rfl

theorem SegmentError.speaks (role : Coordinate) (raw : String) (e : SegmentError) :
    (e.toServiceError role raw).Speaks := by
  iterate 5 apply append_ne_empty
  decide

theorem Segment.ofPath_speaks (role : Coordinate) (raw : String) :
    FailuresSpeak (Segment.ofPath role raw) := .mapError fun e _ => e.speaks role raw

theorem ImageAddress.ofPath_speaks (owner folder name : String) :
    FailuresSpeak (ImageAddress.ofPath owner folder name) :=
  .bind (Segment.ofPath_speaks _ _) fun _ => .bind (Segment.ofPath_speaks _ _) fun _ =>
    .bind (Segment.ofPath_speaks _ _) fun _ => .ok _

theorem FolderAddress.ofPath_speaks (owner folder : String) :
    FailuresSpeak (FolderAddress.ofPath owner folder) :=
  .bind (Segment.ofPath_speaks _ _) fun _ => .bind (Segment.ofPath_speaks _ _) fun _ => .ok _

section Stores

variable {a : ImageAddress} {folder : FolderAddress} {e : StoreError}

theorem FolderListing.ofEntries_error_ne {entries : List ListingEntry}
    (h : FolderListing.ofEntries folder entries = .error e) : e ≠ .invalidKey "" := by
  cases entries with
  | nil =>
      cases h
      nofun
  | cons entry rest => cases h

namespace FileStore

variable {s s' : FileStore}

theorem change_error {c : FileTree.Change Unit} {onError : SystemError → StoreError}
    (h : s.change c onError = (.error e, s')) : ∃ cause, e = onError cause := by
  unfold change at h
  cases hrun : c s.tree with
  | ok _ t =>
      rw [hrun] at h
      cases h
  | error cause t =>
      rw [hrun] at h
      cases h
      exact ⟨cause, rfl⟩

theorem writeAndMove_error {pieces hidden : List String} {file : ByteArray} {now : Instant}
    (h : s.writeAndMove pieces hidden file now = (.error e, s')) : ∃ reason, e = .backend reason := by
  simp only [writeAndMove] at h
  split at h
  · cases h
  · rename_i failed _ hmoved
    cases h
    split at hmoved
    · rename_i hwritten
      cases hmoved
      obtain ⟨cause, hcause⟩ := change_error hwritten
      exact ⟨_, hcause⟩
    · obtain ⟨cause, hcause⟩ := change_error hmoved
      exact ⟨_, hcause⟩

-- A key that is made of segments is never refused.
theorem put_error_ne {content : ByteArray} {contentType : String} {now : Instant} {random : Uuid}
    (h : s.put a content contentType now random = (.error e, s')) : e ≠ .invalidKey "" := by
  simp only [put, locateKey_key] at h
  split at h
  · rename_i hmade
    cases h
    obtain ⟨cause, rfl⟩ := change_error hmade
    nofun
  · split at h
    · cases h
      nofun
    · obtain ⟨reason, rfl⟩ := writeAndMove_error h
      nofun

theorem get_error_ne (h : s.get a = .error e) : e ≠ .invalidKey "" := by
  rw [get_of_entryAt] at h
  split at h
  · split at h
    · cases h
      nofun
    · cases h
      nofun
  · split at h
    · cases h
    · cases h
      nofun
  · cases h
    nofun

theorem list_error_ne (h : s.list folder = .error e) : e ≠ .invalidKey "" := by
  rw [list_of_readDirectory] at h
  split at h
  · split at h
    · cases h
      nofun
    · cases h
      nofun
  · exact FolderListing.ofEntries_error_ne h

end FileStore

namespace Store

variable {s s' : Store}

theorem put_error_ne {content : ByteArray} {contentType : String} {now : Instant} {random : Uuid}
    (h : s.put a content contentType now random = (.error e, s')) : e ≠ .invalidKey "" := by
  cases s with
  | memory s => cases h
  | files s =>
      cases hput : s.put a content contentType now random with
      | mk result after =>
          simp only [put, hput] at h
          cases h
          exact FileStore.put_error_ne hput

theorem get_error_ne (h : s.get a = .error e) : e ≠ .invalidKey "" := by
  cases s with
  | memory s =>
      simp only [get, MemoryStore.get] at h
      split at h
      · cases h
      · cases h
        nofun
  | files s => exact FileStore.get_error_ne h

theorem list_error_ne (h : s.list folder = .error e) : e ≠ .invalidKey "" := by
  cases s with
  | memory s => exact FolderListing.ofEntries_error_ne h
  | files s => exact FileStore.list_error_ne h

end Store

end Stores

end Gallery
