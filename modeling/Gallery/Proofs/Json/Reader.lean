import Gallery.Json.Decode
import Mathlib.Data.List.TakeWhile

namespace Gallery.Json

-- The place some bytes further on.
def Cursor.advance (c : Cursor) (count : Nat) : Cursor :=
  ⟨c.rest.drop count, c.offset + (c.rest.take count).length⟩

-- Where the blanks are passed that the reader stands before.
def Cursor.word (c : Cursor) : Cursor := c.advance (c.rest.takeWhile Reader.isSpace).length

@[simp] theorem Cursor.advance_zero (c : Cursor) : c.advance 0 = c := rfl

theorem Cursor.advance_advance (c : Cursor) (m n : Nat) :
    (c.advance m).advance n = c.advance (m + n) := by
  unfold advance
  simp only [List.drop_drop, List.length_take, List.length_drop, Cursor.mk.injEq, true_and]
  omega

theorem drop_length_takeWhile (p : UInt8 → Bool) (bytes : List UInt8) :
    bytes.drop (bytes.takeWhile p).length = bytes.dropWhile p := by
  have h : (bytes.takeWhile p ++ bytes.dropWhile p).drop (bytes.takeWhile p).length =
      bytes.dropWhile p := List.drop_left
  rwa [List.takeWhile_append_dropWhile] at h

-- Only one run of blanks is passed.
theorem Cursor.word_word (c : Cursor) : c.word.word = c.word := by
  have hnone : c.word.rest.takeWhile Reader.isSpace = [] := by
    rw [word, advance, drop_length_takeWhile, List.takeWhile_eq_nil_iff]
    exact List.dropWhile_get_zero_not _ _
  rw [word, hnone, List.length_nil, advance_zero]

namespace Reader

variable {α β : Type} {c c' : Cursor}

-- What a step that is followed by others read when they all succeeded.
theorem bind_eq_ok_iff {r : Reader α} {f : α → Reader β} {b : β} :
    (r >>= f) c = .ok b c' ↔ ∃ a next, r c = .ok a next ∧ f a next = .ok b c' := by
  change EStateM.bind r f c = .ok b c' ↔ _
  unfold EStateM.bind
  cases hread : r c with
  | ok a next =>
      constructor
      · intro h
        exact ⟨a, next, rfl, h⟩
      · rintro ⟨_, _, hok, h⟩
        cases hok
        exact h
  | error fault next =>
      constructor
      · nofun
      · rintro ⟨_, _, hok, _⟩
        cases hok

-- With a name for what follows, which can then be told apart by what the first step read.
theorem exists_of_bind_eq_ok {r : Reader α} {f : α → Reader β} {b : β}
    (h : (r >>= f) c = .ok b c') :
    ∃ a next rest, r c = .ok a next ∧ f a = rest ∧ rest next = .ok b c' := by
  obtain ⟨a, next, hread, hrest⟩ := bind_eq_ok_iff.mp h
  exact ⟨a, next, _, hread, rfl, hrest⟩

theorem bind_of_ok {r : Reader α} {f : α → Reader β} {a : α} (h : r c = .ok a c') :
    (r >>= f) c = f a c' := by
  change EStateM.bind r f c = f a c'
  unfold EStateM.bind
  rw [h]

theorem bind_of_error {r : Reader α} {f : α → Reader β} {fault : Fault}
    (h : r c = .error fault c') : (r >>= f) c = .error fault c' := by
  change EStateM.bind r f c = .error fault c'
  unfold EStateM.bind
  rw [h]

theorem pure_eq_ok_iff {a b : α} :
    (pure a : Reader α) c = .ok b c' ↔ a = b ∧ c = c' := by
  constructor
  · intro h
    cases h
    exact ⟨rfl, rfl⟩
  · rintro ⟨rfl, rfl⟩
    rfl

theorem located_eq_ok_iff {r : Reader α} {a : α} :
    located r c = .ok a c' ↔ r c = .ok a c' := by
  unfold located
  cases hread : r c with
  | ok b next => rfl
  | error fault next => exact ⟨nofun, nofun⟩

theorem within_eq_ok_iff {part : PathPart} {r : Reader α} {a : α} :
    within part r c = .ok a c' ↔ r c = .ok a c' := by
  unfold within
  cases hread : r c with
  | ok b next => rfl
  | error fault next => exact ⟨nofun, nofun⟩

theorem closedBy_eq_ok_iff {close : Reader Unit} {inside : Reader α} {a : α} :
    closedBy close inside c = .ok a c' ↔
      ∃ next, inside c = .ok a next ∧ close next = .ok () c' := by
  unfold closedBy
  cases hinside : inside c with
  | ok b next =>
      dsimp only
      cases hclose : close next with
      | ok _ after =>
          constructor
          · intro h
            cases h
            exact ⟨next, rfl, hclose⟩
          · rintro ⟨_, hok, hafter⟩
            cases hok
            rw [hclose] at hafter
            cases hafter
            rfl
      | error fault after =>
          constructor
          · nofun
          · rintro ⟨_, hok, hafter⟩
            cases hok
            rw [hclose] at hafter
            cases hafter
  | error fault next =>
      dsimp only
      constructor
      · intro h
        split at h <;> cases h
      · rintro ⟨_, hok, _⟩
        cases hok

theorem peekWord_eq (c : Cursor) : peekWord c = .ok c.word.rest.head? c.word := rfl

theorem peekWord_eq_ok_iff {b : Option UInt8} :
    peekWord c = .ok b c' ↔ b = c.word.rest.head? ∧ c' = c.word := by
  rw [peekWord_eq, EStateM.Result.ok.injEq, eq_comm, @eq_comm _ c.word]

theorem valueStart_eq_ok_iff {b : UInt8} :
    valueStart c = .ok b c' ↔ c.word.rest.head? = some b ∧ c' = c.word := by
  unfold valueStart
  rw [bind_eq_ok_iff]
  constructor
  · rintro ⟨first, here, hpeek, h⟩
    obtain ⟨hfirst, rfl⟩ := peekWord_eq_ok_iff.mp hpeek
    cases first with
    | none => cases h
    | some b' =>
        cases h
        exact ⟨hfirst.symm, rfl⟩
  · rintro ⟨hhead, rfl⟩
    exact ⟨some b, c.word, peekWord_eq_ok_iff.mpr ⟨hhead.symm, rfl⟩, rfl⟩

theorem peek_eq_ok_iff {b : Option UInt8} : peek c = .ok b c' ↔ b = c.rest.head? ∧ c' = c := by
  have hpeek : peek c = .ok c.rest.head? c := rfl
  rw [hpeek, EStateM.Result.ok.injEq, eq_comm, @eq_comm _ c]

theorem skip_eq_ok_iff {count : Nat} {u : Unit} :
    skip count c = .ok u c' ↔ c' = c.advance count := by
  have hskip : skip count c = .ok () (c.advance count) := rfl
  rw [hskip, EStateM.Result.ok.injEq, @eq_comm _ c']
  exact and_iff_right rfl

theorem next_eq_ok_iff {b : Option UInt8} :
    next c = .ok b c' ↔ b = c.rest.head? ∧ c' = c.advance 1 := by
  have hnext : next c = .ok c.rest.head? (c.advance 1) := rfl
  rw [hnext, EStateM.Result.ok.injEq, eq_comm, @eq_comm _ c']

theorem get_eq_ok_iff {here : Cursor} :
    (get : Reader Cursor) c = .ok here c' ↔ here = c ∧ c' = c := by
  have hget : (get : Reader Cursor) c = .ok c c := rfl
  rw [hget, EStateM.Result.ok.injEq, eq_comm, @eq_comm _ c']

theorem discard_eq_ok_iff {r : Reader α} {u : Unit} :
    discard r c = .ok u c' ↔ ∃ a, r c = .ok a c' := by
  change EStateM.map _ r c = _ ↔ _
  unfold EStateM.map
  cases hread : r c with
  | ok a next =>
      constructor
      · intro h
        cases h
        exact ⟨a, rfl⟩
      · rintro ⟨_, hok⟩
        cases hok
        rfl
  | error fault next => exact ⟨nofun, nofun⟩

theorem finish_eq_ok_iff {u : Unit} :
    finish c = .ok u c' ↔ c' = c.word ∧ c.word.rest = [] := by
  unfold finish
  rw [bind_eq_ok_iff]
  constructor
  · rintro ⟨_, _, hword, hend⟩
    rw [peekWord_eq] at hword
    cases hword
    split at hend
    · cases hend
    · rename_i hnone
      cases hend
      exact ⟨rfl, by simpa using hnone⟩
  · rintro ⟨rfl, hnone⟩
    refine ⟨_, _, peekWord_eq c, ?_⟩
    rw [hnone]
    rfl

-- Reading a whole text ends with nothing but blanks left.
theorem run_eq_ok_iff {r : Reader α} {text : List UInt8} {a : α} :
    run r text = .ok a ↔ ∃ next, r ⟨text, 0⟩ = .ok a next ∧ next.word.rest = [] := by
  have hwhole : run r text = .ok a ↔ ∃ last,
      (do let a ← r; finish; return a : Reader α) ⟨text, 0⟩ = .ok a last := by
    unfold run
    dsimp only [EStateM.run]
    constructor
    · intro h
      split at h
      · rename_i last hread
        cases h
        exact ⟨last, hread⟩
      · cases h
    · rintro ⟨last, hread⟩
      rw [hread]
  simp only [hwhole, bind_eq_ok_iff, finish_eq_ok_iff, pure_eq_ok_iff]
  constructor
  · rintro ⟨last, b, next, hread, _, _, ⟨_, hend⟩, rfl, _⟩
    exact ⟨next, hread, hend⟩
  · rintro ⟨next, hread, hend⟩
    exact ⟨next.word, a, next, hread, (), next.word, ⟨rfl, hend⟩, rfl, rfl⟩

theorem run_eq_error_of_error {r : Reader α} {text : List UInt8} {fault : Fault} {next : Cursor}
    (h : r ⟨text, 0⟩ = .error fault next) : run r text = .error fault := by
  unfold run
  dsimp only [EStateM.run]
  rw [bind_of_error h]

end Reader

end Gallery.Json
