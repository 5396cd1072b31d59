import Gallery.Access.Claims
import Gallery.Proofs.Json.Record

-- The claims of a token are read twice: once for what they say, and once for what is validated of
-- them. Where both succeed, the expiry that is validated is the one that is said.

namespace Gallery.Access

open Json Reader

variable {c c' last : Cursor}

theorem lookAhead_eq_ok {α : Type} {r : Reader α} {a : Option α}
    (h : lookAhead r c = .ok a c') : c' = c := by
  unfold lookAhead at h
  split at h <;> cases h <;> rfl

namespace ClaimChecks

-- The reader stands where no member of an object can end.
def Stuck (c : Cursor) : Prop := ∀ more c', anotherMember false c ≠ .ok more c'

theorem stuck_of_head {b : UInt8} (hhead : c.word.rest.head? = some b) (hcomma : b ≠ 44)
    (hclose : b ≠ 125) : Stuck c := by
  intro more c' h
  unfold anotherMember at h
  obtain ⟨first, here, rest, hpeek, hrest, h⟩ := exists_of_bind_eq_ok h
  obtain ⟨rfl, rfl⟩ := peekWord_eq_ok_iff.mp hpeek
  rw [hhead] at hrest
  split at hrest <;> subst hrest
  · cases h
  · rename_i hsome
    exact hclose (Option.some.inj hsome)
  · rename_i b' _ hsome
    cases hsome
    rw [if_pos (by rfl), if_neg hcomma] at h
    cases h

theorem stuck_of_passInside {enclosures : List Enclosure} {fuel : Nat}
    (h : passInside enclosures fuel c = .ok () c') : Stuck c := by
  cases fuel with
  | zero => cases h
  | succ fuel =>
      rw [passInside] at h
      obtain ⟨b, here, rest, hstart, hrest, h⟩ := exists_of_bind_eq_ok h
      obtain ⟨hhead, rfl⟩ := valueStart_eq_ok_iff.mp hstart
      refine stuck_of_head hhead ?_ ?_ <;> rintro rfl <;> subst hrest <;> cases h

-- Where the closing bracket follows, both readers go behind it.
theorem bracket_eq_ok_iff {close : UInt8} {t : Option Nat} :
    bracket close c = .ok t c' ↔ t = none ∧
      c' = if (c.advance 1).word.rest.head? = some close then (c.advance 1).word.advance 1
        else (c.advance 1).word := by
  have hbracket : bracket close c = .ok none
      (if (c.advance 1).word.rest.head? = some close then (c.advance 1).word.advance 1
        else (c.advance 1).word) := by
    unfold bracket
    refine bind_eq_ok_iff.mpr ⟨(), _, skip_eq_ok_iff.mpr rfl, ?_⟩
    refine bind_eq_ok_iff.mpr ⟨_, _, peekWord_eq_ok_iff.mpr ⟨rfl, rfl⟩, ?_⟩
    split <;> rfl
  rw [hbracket, EStateM.Result.ok.injEq, eq_comm, @eq_comm _ c']

-- After the opening bracket of what is passed over comes the closing one, or an item or member,
-- before which nothing can end.
theorem closed_of_passAfter {enclosure : Enclosure} {close : UInt8} {fuel : Nat}
    (hclose : (enclosure, close) = (.array, 93) ∨ (enclosure, close) = (.object, 125))
    (h : passAfter false [enclosure] fuel c = .ok () last) :
    if c.word.rest.head? = some close then last = c.word.advance 1 else Stuck c.word := by
  have hend : ∀ {fuel : Nat},
      (skip 1 >>= fun _ => passAfter true [] fuel) c.word = .ok () last →
        last = c.word.advance 1 := by
    intro fuel h
    obtain ⟨_, past, hskip, hnil⟩ := bind_eq_ok_iff.mp h
    rw [← passAfter_nil.mp hnil, skip_eq_ok_iff.mp hskip]
  cases fuel with
  | zero => rcases hclose with hclose | hclose <;> cases hclose <;> cases h
  | succ fuel =>
      rcases hclose with hclose | hclose <;> cases hclose
      all_goals
        rw [passAfter] at h
        obtain ⟨first, here, rest, hpeek, hrest, h⟩ := exists_of_bind_eq_ok h
        obtain ⟨hfirst, rfl⟩ := peekWord_eq_ok_iff.mp hpeek
        rw [← hfirst]
        split at hrest <;> subst hrest
        · cases h
        · rw [if_pos rfl]
          exact hend h
        rename_i b hopen
        rw [if_neg fun hb => hopen (Option.some.inj hb)]
      · exact stuck_of_passInside h
      · obtain ⟨_, value, hname, _⟩ := bind_eq_ok_iff.mp h
        exact stuck_of_head (head_of_passName hname) (by decide) (by decide)

-- A value without brackets is a time only if it is a number.
theorem found_of_scalar {v : Value} (h : scalar c = .ok v c') :
    ∃ f, found c = .ok f c' ∧
      ∀ k, timeOf v = some k → ∃ n, f = .number n ∧ n.whole? = some (k : Int) := by
  unfold scalar at h
  obtain ⟨f, past, hfound, hvalue⟩ := bind_eq_ok_iff.mp h
  rcases f with _ | b | (n | n | x) | s | _ | _ <;>
    obtain ⟨rfl, rfl⟩ := pure_eq_ok_iff.mp hvalue <;> refine ⟨_, hfound, fun k hk => ?_⟩
  case number.natural =>
    have hnat : ¬(n : Int) < 0 := by omega
    rw [timeOf, if_neg hnat, Option.some.injEq, Int.toNat_natCast] at hk
    exact ⟨_, rfl, congrArg some (congrArg Nat.cast hk)⟩
  case number.negative =>
    rw [timeOf] at hk
    split at hk
    · cases hk
    · rw [Option.some.injEq] at hk
      exact ⟨_, rfl, congrArg some (by omega)⟩
  all_goals cases hk

-- What is passed over without brackets is read whole, and is a time if it is a number.
theorem found_of_time (hscalar : passScalar c.word = .ok () last) {t : Option Nat}
    (h : time c = .ok t c') :
    c' = last ∧ ∃ f, found c.word = .ok f c' ∧
      ∀ k, t = some k → ∃ n, f = .number n ∧ n.whole? = some (k : Int) := by
  have hopen := head_of_passScalar hscalar (b := 91) (by simp)
  have hbrace := head_of_passScalar hscalar (b := 123) (by simp)
  unfold time at h
  obtain ⟨first, here, rest, hpeek, hrest, h⟩ := exists_of_bind_eq_ok h
  obtain ⟨hfirst, rfl⟩ := peekWord_eq_ok_iff.mp hpeek
  split at hrest <;> subst hrest
  · exact absurd hfirst.symm hopen
  · exact absurd hfirst.symm hbrace
  obtain ⟨v, past, hvalue, hend⟩ := bind_eq_ok_iff.mp h
  obtain ⟨rfl, rfl⟩ := pure_eq_ok_iff.mp hend
  rw [value] at hvalue
  obtain ⟨b, here, rest, hstart, hrest, hvalue⟩ := exists_of_bind_eq_ok hvalue
  obtain ⟨hhead, rfl⟩ := valueStart_eq_ok_iff.mp hstart
  rw [Cursor.word_word] at hvalue hhead
  split at hrest <;> subst hrest
  · exact absurd hhead hopen
  · exact absurd hhead hbrace
  obtain ⟨f, hfound, hwhole⟩ := found_of_scalar hvalue
  refine ⟨?_, f, hfound, hwhole⟩
  rcases passScalar_of_found hfound with hsame | hbracket | hbracket
  · rw [hsame] at hscalar
    cases hscalar
    rfl
  · exact absurd hbracket hopen
  · exact absurd hbracket hbrace

theorem bracket_of_passAfter {enclosure : Enclosure} {close : UInt8} {t : Option Nat} {fuel : Nat}
    (hclose : (enclosure, close) = (.array, 93) ∨ (enclosure, close) = (.object, 125))
    (hpass : passAfter false [enclosure] fuel (c.advance 1) = .ok () last)
    (h : bracket close c = .ok t c') : c' = last ∨ Stuck c' := by
  have hclosed := closed_of_passAfter hclose hpass
  obtain ⟨_, rfl⟩ := bracket_eq_ok_iff.mp h
  split at hclosed
  · rename_i hhead
    rw [if_pos hhead]
    exact Or.inl hclosed.symm
  · rename_i hhead
    rw [if_neg hhead]
    exact Or.inr hclosed

-- A reader of times that goes on from a value is behind it, as if the value were passed over. The
-- other place where it may stand is inside of a list or an object, and there it does not go on.
theorem time_of_pass {t : Option Nat} (hpass : pass c = .ok () last) (h : time c = .ok t c') :
    c' = last ∨ Stuck c' := by
  cases passes_of_pass hpass with
  | scalar hscalar => exact Or.inl (found_of_time hscalar h).1
  | array hhead hinside =>
      obtain ⟨first, here, hpeek, h⟩ := bind_eq_ok_iff.mp h
      obtain ⟨rfl, rfl⟩ := peekWord_eq_ok_iff.mp hpeek
      rw [hhead] at h
      exact bracket_of_passAfter (Or.inl rfl) hinside h
  | object hhead hinside =>
      obtain ⟨first, here, hpeek, h⟩ := bind_eq_ok_iff.mp h
      obtain ⟨rfl, rfl⟩ := peekWord_eq_ok_iff.mp hpeek
      rw [hhead] at h
      exact bracket_of_passAfter (Or.inr rfl) hinside h

theorem pass_of_audience {b : Bool} (h : audience c = .ok b c') : pass c = .ok () c' := by
  obtain ⟨_, here, hsingle, h⟩ := bind_eq_ok_iff.mp h
  obtain ⟨_, here', hseveral, h⟩ := bind_eq_ok_iff.mp h
  obtain ⟨_, last, hpass, hend⟩ := bind_eq_ok_iff.mp h
  obtain ⟨_, rfl⟩ := pure_eq_ok_iff.mp hend
  rwa [lookAhead_eq_ok hseveral, lookAhead_eq_ok hsingle] at hpass

-- What a member does to the expiry, and where it ends.
theorem readAs_cases {name : String} {b b' : ClaimChecks}
    (h : readAs members name b c = .ok b' c') :
    (name = "exp" ∧ time c = .ok b'.expiry c') ∨
      name ≠ "exp" ∧ b'.expiry = b.expiry ∧ (pass c = .ok () c' ∨ ∃ t, time c = .ok t c') := by
  unfold members at h
  rcases readAs_cons_cases h with ⟨rfl, h⟩ | ⟨hexp, h⟩
  · obtain ⟨t, htime, rfl⟩ := Member.of_read_eq_ok h
    exact Or.inl ⟨rfl, htime⟩
  refine Or.inr ⟨hexp, ?_⟩
  rcases readAs_cons_cases h with ⟨rfl, h⟩ | ⟨_, h⟩
  · obtain ⟨t, htime, rfl⟩ := Member.of_read_eq_ok h
    exact ⟨rfl, Or.inr ⟨t, htime⟩⟩
  rcases readAs_cons_cases h with ⟨rfl, h⟩ | ⟨_, h⟩
  · obtain ⟨_, hpass, rfl⟩ := Member.of_read_eq_ok h
    exact ⟨rfl, Or.inl hpass⟩
  rcases readAs_cons_cases h with ⟨rfl, h⟩ | ⟨_, h⟩
  · obtain ⟨_, hpass, rfl⟩ := Member.of_read_eq_ok h
    exact ⟨rfl, Or.inl hpass⟩
  rcases readAs_cons_cases h with ⟨rfl, h⟩ | ⟨_, h⟩
  · obtain ⟨named, haudience, rfl⟩ := Member.of_read_eq_ok h
    exact ⟨rfl, Or.inl (pass_of_audience haudience)⟩
  · obtain ⟨rfl, hpass⟩ := readAs_nil_eq_ok h
    exact ⟨rfl, Or.inl hpass⟩

end ClaimChecks

namespace TokenClaims

theorem readAs_cases {name : String} {a a' : TokenClaims}
    (h : readAs members name a c = .ok a' c') :
    (name = "exp" ∧ signedWord c = .ok a'.expiry c') ∨
      name ≠ "exp" ∧ a'.expiry = a.expiry ∧ pass c = .ok () c' := by
  unfold members at h
  rcases readAs_cons_cases h with ⟨rfl, h⟩ | ⟨_, h⟩
  · obtain ⟨s, htext, rfl⟩ := Member.of_read_eq_ok h
    exact Or.inr ⟨by decide, rfl, pass_of_passScalar (passScalar_of_text htext)⟩
  rcases readAs_cons_cases h with ⟨rfl, h⟩ | ⟨hexp, h⟩
  · obtain ⟨k, hnumber, rfl⟩ := Member.of_read_eq_ok h
    exact Or.inl ⟨rfl, hnumber⟩
  refine Or.inr ⟨hexp, ?_⟩
  rcases readAs_cons_cases h with ⟨rfl, h⟩ | ⟨_, h⟩
  · obtain ⟨k, hnumber, rfl⟩ := Member.of_read_eq_ok h
    exact ⟨rfl, pass_of_passScalar (passScalar_of_option passScalar_of_signedWord hnumber)⟩
  · obtain ⟨rfl, hpass⟩ := readAs_nil_eq_ok h
    exact ⟨rfl, hpass⟩

end TokenClaims

namespace ClaimChecks

-- The expiry that is validated, if there is one, is the expiry of the claims.
def Agrees (checks : ClaimChecks) (claims : TokenClaims) : Prop :=
  ∀ t, checks.expiry = some t → claims.expiry = t

theorem time_of_signedWord {k : Int} {t : Option Nat} (hnumber : signedWord c = .ok k last)
    (htime : time c = .ok t c') : c' = last ∧ ∀ n, t = some n → k = n := by
  obtain ⟨byte, n, hhead, hstarts, hread, hwhole⟩ := number_of_signedWord hnumber
  obtain ⟨rfl, f, hfound, hagree⟩ := found_of_time (passScalar_of_signedWord hnumber) htime
  obtain ⟨n', rfl, hread'⟩ := found_of_number hhead hstarts hfound
  rw [hread] at hread'
  cases hread'
  refine ⟨rfl, fun k' hk' => ?_⟩
  obtain ⟨n', hn', hwhole'⟩ := hagree k' hk'
  cases hn'
  rw [hwhole] at hwhole'
  exact Option.some.inj hwhole'

theorem time_of_text {s : String} {t : Option Nat} (htext : text c = .ok s last)
    (htime : time c = .ok t c') : t = none := by
  obtain ⟨_, f, hfound, hagree⟩ := found_of_time (passScalar_of_text htext) htime
  obtain ⟨s', rfl⟩ := found_of_quote (stringBody_of_text htext).1 hfound
  cases t with
  | none => rfl
  | some k =>
      obtain ⟨n, hn, _⟩ := hagree k rfl
      cases hn

-- Both read the same member, and end at the same place if the second can go on from its own.
theorem agrees_of_readAs {name : String} {a a' : TokenClaims} {b b' : ClaimChecks}
    (hclaims : readAs TokenClaims.members name a c = .ok a' last)
    (hchecks : readAs members name b c = .ok b' c') (h : b.Agrees a) :
    b'.Agrees a' ∧ (c' = last ∨ Stuck c') := by
  rcases TokenClaims.readAs_cases hclaims with ⟨rfl, hnumber⟩ | ⟨hother, hkept, hpass⟩
  · rcases readAs_cases hchecks with ⟨_, htime⟩ | ⟨hother, _⟩
    · obtain ⟨hsame, hexpiry⟩ := time_of_signedWord hnumber htime
      exact ⟨hexpiry, Or.inl hsame⟩
    · exact absurd rfl hother
  · rcases readAs_cases hchecks with ⟨hname, _⟩ | ⟨_, hkept', hpass' | ⟨t, htime⟩⟩
    · exact absurd hname hother
    all_goals
      have hagrees : b'.Agrees a' := by
        intro t ht
        rw [hkept]
        exact h t (hkept' ▸ ht)
    · rw [hpass] at hpass'
      cases hpass'
      exact ⟨hagrees, Or.inl rfl⟩
    · exact ⟨hagrees, time_of_pass hpass htime⟩

-- By induction on the members that both read.
theorem agrees_of_membersOf {first : Bool} {seen seen' : List String} {a : TokenClaims}
    {b : ClaimChecks} {fuel : Nat} {claims : List String × TokenClaims}
    {checks : List String × ClaimChecks} (h : b.Agrees a)
    (hclaims : membersOf TokenClaims.members first seen a fuel c = .ok claims last)
    (hchecks : membersOf members first seen' b fuel c = .ok checks c') :
    checks.2.Agrees claims.2 := by
  induction fuel generalizing c first seen seen' a b with
  | zero =>
      cases hclaims
      cases hchecks
      exact h
  | succ fuel ih =>
      rcases membersOf_cases hclaims with ⟨hend, rfl⟩ |
        ⟨name, start, named, value, next, seen, a', hmore, hname, hcolon, hread, hclaims⟩
      · rcases membersOf_cases hchecks with ⟨_, rfl⟩ | ⟨_, _, _, _, _, _, _, hmore, _⟩
        · exact h
        · rw [hend] at hmore
          cases hmore
      · rcases membersOf_cases hchecks with ⟨hend, _⟩ |
          ⟨_, start', named', value', next', seen', b', hmore', hname', hcolon', hread', hchecks⟩
        · rw [hend] at hmore
          cases hmore
        · rw [hmore] at hmore'
          cases hmore'
          rw [hname] at hname'
          cases hname'
          rw [hcolon] at hcolon'
          cases hcolon'
          obtain ⟨hagrees, rfl | hstuck⟩ := agrees_of_readAs hread hread' h
          · exact ih hagrees hclaims hchecks
          · cases fuel with
            | zero =>
                cases hclaims
                cases hchecks
                exact hagrees
            | succ fuel =>
                rcases membersOf_cases hchecks with ⟨hend, _⟩ | ⟨_, _, _, _, _, _, _, hmore, _⟩
                · exact absurd hend (hstuck _ _)
                · exact absurd hmore (hstuck _ _)

-- An array of claims begins with the subject, which is no time.
theorem expiry_of_itemsOf {shape shape' : String} {a claims : TokenClaims} {b checks : ClaimChecks}
    (hclaims : itemsOf shape 0 a TokenClaims.members c = .ok claims last)
    (hchecks : itemsOf shape' 0 b members c = .ok checks c') (h : b.expiry = none) :
    checks.expiry = none := by
  have hrest : ∀ m ∈ members.tail, ∀ b b' c c', m.read b c = .ok b' c' →
      b'.expiry = b.expiry := by
    intro m hm b b' c c' hread
    have hnames : ∀ m ∈ members.tail, m.name ≠ "exp" := by decide
    rw [← readAs_of_mem (List.mem_of_mem_tail hm) (by decide)] at hread
    rcases readAs_cases hread with ⟨hname, _⟩ | ⟨_, hkept, _⟩
    · exact absurd hname (hnames m hm)
    · exact hkept
  rcases itemsOf_cases hchecks with ⟨start, b', next, hmore, hread, hchecks⟩ | ⟨next, _, _, hchecks⟩
  · rcases itemsOf_cases hclaims with ⟨start', a', next', hmore', hread', _⟩ | ⟨_, _, hpresence, _⟩
    · rw [hmore] at hmore'
      cases hmore'
      obtain ⟨s, htext, rfl⟩ := Member.of_read_eq_ok hread'
      obtain ⟨t, htime, rfl⟩ := Member.of_read_eq_ok hread
      rw [itemsOf_keeps hrest hchecks]
      exact time_of_text htext htime
    · cases hpresence
  · rw [itemsOf_keeps hrest hchecks, h]

-- Whatever is read as claims and passes what is validated of them has one expiry.
theorem agrees_of_run {text : List UInt8} {claims : TokenClaims} {checks : ClaimChecks}
    (hclaims : run TokenClaims.reader text = .ok claims)
    (hchecks : run reader text = .ok checks) : checks.Agrees claims := by
  obtain ⟨_, hclaims, _⟩ := run_eq_ok_iff.mp hclaims
  obtain ⟨_, hchecks, _⟩ := run_eq_ok_iff.mp hchecks
  cases fields_of_record hclaims with
  | object hhead hclaims =>
      cases fields_of_record hchecks with
      | object _ hchecks =>
          have hblank : Agrees ⟨none, false⟩ ⟨"", 0, none⟩ := by
            intro t ht
            cases ht
          exact agrees_of_membersOf hblank hclaims hchecks
      | array hhead' _ =>
          rw [hhead] at hhead'
          cases hhead'
  | array hhead hclaims =>
      cases fields_of_record hchecks with
      | object hhead' _ =>
          rw [hhead] at hhead'
          cases hhead'
      | array _ hchecks =>
          intro t ht
          rw [expiry_of_itemsOf hclaims hchecks rfl] at ht
          cases ht

end ClaimChecks

end Gallery.Access
