import Gallery.Proofs.Json.Quoted
import Gallery.Proofs.Segment
import Gallery.Segment.Json

-- What is wrong with a text that is no segment. More than one thing can be, and the first of them
-- in the order of `SegmentError.rank` is the reason that is given.

namespace Gallery

def SegmentError.rank : SegmentError → Nat
  | .empty => 0
  | .tooLong _ => 1
  | .nullByte => 2
  | .traversal => 3
  | .separator => 4
  | .hidden => 5
  | .invalidCharacter _ => 6

namespace Segment

-- A character of the grammar of segments.
def Permitted (c : Char) : Prop := c.isAlphanum = true ∨ c ∈ ['.', '_', '@', '+', '-']

inductive Wrong (raw : String) : SegmentError → Prop where
  | empty (h : raw = "") : Wrong raw .empty
  | tooLong (h : 255 < raw.utf8ByteSize) : Wrong raw (.tooLong raw.utf8ByteSize)
  | nullByte (h : '\x00' ∈ raw.toList) : Wrong raw .nullByte
  | traversal (h : ['.', '.'] <:+: raw.toList) : Wrong raw .traversal
  | separator (h : '/' ∈ raw.toList ∨ '\\' ∈ raw.toList) : Wrong raw .separator
  | hidden (h : raw.toList.head? = some '.') : Wrong raw .hidden
  | invalidCharacter {before after : List Char} {c : Char}
      (hraw : raw.toList = before ++ c :: after) (hbefore : ∀ d ∈ before, Permitted d)
      (hc : ¬Permitted c) : Wrong raw (.invalidCharacter c)

-- Nothing else that is wrong with the text goes before this.
structure FirstFault (raw : String) (e : SegmentError) : Prop where
  wrong : Wrong raw e
  first : ∀ other, Wrong raw other → e.rank ≤ other.rank

variable {raw : String} {e : SegmentError}

theorem permitted_iff (c : Char) : Permitted c ↔ allows c = true := (allows_iff c).symm

theorem wrong_invalidCharacter_iff (c : Char) :
    Wrong raw (.invalidCharacter c) ↔ raw.toList.find? (!allows ·) = some c := by
  rw [List.find?_eq_some_iff_append]
  constructor
  · intro h
    cases h with
    | invalidCharacter hraw hbefore hc =>
        refine ⟨by simpa [permitted_iff] using hc, _, _, hraw, fun d hd => ?_⟩
        simpa using (permitted_iff d).mp (hbefore d hd)
  · rintro ⟨hc, before, after, hraw, hbefore⟩
    refine .invalidCharacter hraw (fun d hd => ?_) (by simpa [permitted_iff] using hc)
    simpa [permitted_iff] using hbefore d hd

-- Two faults of one rank are the same: only one length and one character can be named.
theorem Wrong.eq_of_rank_eq {other : SegmentError} (h : Wrong raw e) (hother : Wrong raw other)
    (hrank : e.rank = other.rank) : e = other := by
  cases h with
  | invalidCharacter hraw hbefore hc =>
      cases hother with
      | invalidCharacter hraw' hbefore' hc' =>
          have hfound := (wrong_invalidCharacter_iff _).mp (.invalidCharacter hraw hbefore hc)
          have hfound' := (wrong_invalidCharacter_iff _).mp (.invalidCharacter hraw' hbefore' hc')
          rw [hfound, Option.some.injEq] at hfound'
          rw [hfound']
      | _ => cases hrank
  | _ =>
      cases hother with
      | _ => first | rfl | cases hrank

theorem wrong_of_fault? (h : fault? raw = some e) : Wrong raw e := by
  unfold fault? at h
  dsimp only at h
  split at h
  · rename_i hempty
    cases h
    exact .empty (by simpa using hempty)
  split at h
  · rename_i hlong
    cases h
    exact .tooLong hlong
  split at h
  · rename_i hnul
    cases h
    exact .nullByte (by simpa using hnul)
  split at h
  · rename_i htraversal
    cases h
    refine .traversal ?_
    rwa [← hasTraversal_iff_infix]
  split at h
  · rename_i hseparator
    cases h
    exact .separator (by simpa using hseparator)
  split at h
  · rename_i hhidden
    cases h
    exact .hidden hhidden
  · obtain ⟨c, hfound, rfl⟩ := Option.map_eq_some_iff.mp h
    exact (wrong_invalidCharacter_iff c).mpr hfound

-- One check, before all the others.
theorem refused_by {check : Prop} [Decidable check] {found : SegmentError}
    {rest : Option SegmentError} {limit : Nat} (hle : found.rank ≤ limit)
    (hrest : ¬check → ∃ later, rest = some later ∧ later.rank ≤ limit) :
    ∃ first, (if check then some found else rest) = some first ∧ first.rank ≤ limit := by
  split
  · exact ⟨found, rfl, hle⟩
  · rename_i hpassed
    exact hrest hpassed

-- The checks are made in the order of the ranks, so what is wrong is found at its own check if none
-- before it refuses.
theorem exists_fault?_of_wrong (h : Wrong raw e) :
    ∃ found, fault? raw = some found ∧ found.rank ≤ e.rank := by
  have hle : ∀ {n : Nat}, SegmentError.rank .empty ≤ n := Nat.zero_le _
  unfold fault?
  dsimp only
  cases h with
  | empty h => exact refused_by hle fun hpassed => absurd (by simpa using h) hpassed
  | tooLong h =>
      exact refused_by hle fun _ => refused_by (Nat.le_refl _) fun hpassed => absurd h hpassed
  | nullByte h =>
      refine refused_by hle fun _ => refused_by (by simp [SegmentError.rank]) fun _ =>
        refused_by (Nat.le_refl _) fun hpassed => absurd (by simpa using h) hpassed
  | traversal h =>
      rw [← hasTraversal_iff_infix] at h
      refine refused_by hle fun _ => refused_by (by simp [SegmentError.rank]) fun _ =>
        refused_by (by decide) fun _ => refused_by (Nat.le_refl _) fun hpassed => absurd h hpassed
  | separator h =>
      refine refused_by hle fun _ => refused_by (by simp [SegmentError.rank]) fun _ =>
        refused_by (by decide) fun _ => refused_by (by decide) fun _ =>
          refused_by (Nat.le_refl _) fun hpassed => absurd (by simpa using h) hpassed
  | hidden h =>
      refine refused_by hle fun _ => refused_by (by simp [SegmentError.rank]) fun _ =>
        refused_by (by decide) fun _ => refused_by (by decide) fun _ =>
          refused_by (by decide) fun _ => refused_by (Nat.le_refl _) fun hpassed => absurd h hpassed
  | invalidCharacter hraw hbefore hc =>
      have hfound := (wrong_invalidCharacter_iff _).mp (.invalidCharacter hraw hbefore hc)
      refine refused_by hle fun _ => refused_by (by simp [SegmentError.rank]) fun _ =>
        refused_by (Nat.le_of_ble_eq_true rfl) fun _ => refused_by (Nat.le_of_ble_eq_true rfl) fun _ =>
          refused_by (Nat.le_of_ble_eq_true rfl) fun _ => refused_by (Nat.le_of_ble_eq_true rfl) fun _ =>
            ⟨_, by rw [hfound]; rfl, Nat.le_refl _⟩

-- The reason that is given is the first of all that is wrong.
theorem fault?_eq_some_iff : fault? raw = some e ↔ FirstFault raw e := by
  constructor
  · intro h
    refine ⟨wrong_of_fault? h, fun other hother => ?_⟩
    obtain ⟨found, hfound, hle⟩ := exists_fault?_of_wrong hother
    rw [h, Option.some.injEq] at hfound
    rwa [hfound]
  · rintro ⟨hwrong, hfirst⟩
    obtain ⟨found, hfound, hle⟩ := exists_fault?_of_wrong hwrong
    have hother := wrong_of_fault? hfound
    rw [hfound, hother.eq_of_rank_eq hwrong (Nat.le_antisymm hle (hfirst found hother))]

section Json

open Json

variable {role : Coordinate}

theorem run_reader_eq_ok_iff {json : List UInt8} {s : Segment role} :
    Reader.run (reader role) json = .ok s ↔ Reader.run Reader.text json = .ok s.text := by
  unfold reader
  simp only [Reader.run_eq_ok_iff, Reader.bind_eq_ok_iff]
  constructor
  · rintro ⟨last, ⟨raw, next, htext, hparsed⟩, hend⟩
    cases hparse : parse role raw with
    | error e =>
        simp only [hparse] at hparsed
        cases hparsed
    | ok t =>
        simp only [hparse] at hparsed
        cases hparsed
        rw [text_of_parse hparse]
        exact ⟨_, htext, hend⟩
  · rintro ⟨last, htext, hend⟩
    refine ⟨last, ⟨s.text, last, htext, ?_⟩, hend⟩
    rw [parse_text]
    rfl

-- A text that is written as JSON is taken as a segment or refused like any other text.
theorem run_reader_render (raw : String) :
    Reader.run (reader role) (Text.utf8 (Value.text raw).render) =
      (parse role raw).mapError fun e => ⟨.refused e.message, none, []⟩ := by
  have htext := Reader.run_text_render raw
  cases hparse : parse role raw with
  | ok s =>
      obtain rfl := text_of_parse hparse
      exact run_reader_eq_ok_iff.mpr htext
  | error e =>
      obtain ⟨next, hread, _⟩ := Reader.run_eq_ok_iff.mp htext
      apply Reader.run_eq_error_of_error
      unfold reader
      rw [Reader.bind_of_ok hread]
      simp only [hparse]
      rfl

-- A character that is allowed needs no escape.
theorem escaped_eq_singleton {c : Char} (h : allows c = true) : escaped c = [c] := by
  have hcontrols : ∀ n < 32, allows (Char.ofNat n) = false := by decide
  have hne : ∀ d, allows d = false → c ≠ d := by
    rintro d hd rfl
    rw [h] at hd
    cases hd
  have hprintable : ¬c.toNat < 32 := by
    intro hlt
    exact hne _ (hcontrols _ hlt) c.ofNat_toNat.symm
  rw [escaped, if_neg (hne _ (by decide)), if_neg (hne _ (by decide)), if_neg (hne _ (by decide)),
    if_neg (hne _ (by decide)), if_neg (hne _ (by decide)), if_neg (hne _ (by decide)),
    if_neg (hne _ (by decide)), if_neg hprintable]

theorem render_toJson (s : Segment role) : s.toJson.render = "\"" ++ s.text ++ "\"" := by
  have hchars : s.text.toList.flatMap escaped = s.text.toList := by
    rw [List.flatMap_congr fun c hc => escaped_eq_singleton (s.allows_of_mem hc),
      List.flatMap_singleton']
  apply String.toList_inj.mp
  rw [toJson, Value.render, Value.characters, quotedText, hchars]
  simp

end Json

-- The accepted texts are exactly those of the grammar, and one that is refused is refused for the
-- first thing that is wrong with it. Reading a segment from JSON accepts the same texts, and those
-- only; what is written of a segment is its text. So there is no segment, however it came to be,
-- whose text is not of the grammar.
theorem segments_by_grammar (role : Coordinate) :
    (∀ raw, fault? raw = none ↔ Grammatical raw) ∧
    (∀ raw e, fault? raw = some e ↔ FirstFault raw e) ∧
    (∀ raw, (∃ s, parse role raw = .ok s ∧ s.text = raw) ↔ Grammatical raw) ∧
    (∀ raw e, parse role raw = .error e ↔ FirstFault raw e) ∧
    (∀ json (s : Segment role), Json.Reader.run (reader role) json = .ok s ↔
      Json.Reader.run Json.Reader.text json = .ok s.text) ∧
    (∀ raw, Json.Reader.run (reader role) (Text.utf8 (Json.Value.text raw).render) =
      (parse role raw).mapError fun e => ⟨.refused e.message, none, []⟩) ∧
    ∀ s : Segment role, s.toJson.render = "\"" ++ s.text ++ "\"" ∧ Grammatical s.text := by
  refine ⟨fault?_eq_none_iff_grammatical, fun _ _ => fault?_eq_some_iff, fun raw => ?_,
    fun raw e => ?_, fun _ _ => run_reader_eq_ok_iff, run_reader_render,
    fun s => ⟨s.render_toJson, s.grammatical⟩⟩
  · constructor
    · rintro ⟨s, _, rfl⟩
      exact s.grammatical
    · intro h
      have hnone := (fault?_eq_none_iff_grammatical raw).mpr h
      exact ⟨⟨raw, hnone⟩, parse_eq_ok_iff.mpr rfl, rfl⟩
  · rw [parse_eq_error_iff, fault?_eq_some_iff]

end Segment

end Gallery
