import Gallery.Proofs.Json.Passing

-- Records: how their members are read, one after another.

namespace Gallery.Json.Reader

variable {α β : Type} {c c' : Cursor} {members : List (Member α)}

-- How a member of an object is read into a record: by the rules for its name, or passed over.
def readAs (members : List (Member α)) (name : String) (a : α) : Reader α :=
  match members.find? (·.name == name) with
  | some m => m.read a
  | none => do
    pass
    return a

-- The members of an object come to an end, or one of them is read before the others.
theorem membersOf_cases {first : Bool} {seen : List String} {a : α} {fuel : Nat}
    {r : List String × α} (h : membersOf members first seen a (fuel + 1) c = .ok r c') :
    (anotherMember first c = .ok false c' ∧ r.2 = a) ∨
      ∃ name start named value next seen' a', anotherMember first c = .ok true start ∧
        stringBody start = .ok name named ∧ colon named = .ok () value ∧
        readAs members name a value = .ok a' next ∧
        membersOf members false seen' a' fuel next = .ok r c' := by
  rw [membersOf] at h
  obtain ⟨another, start, hanother, h⟩ := bind_eq_ok_iff.mp h
  split at h
  · rename_i hmore
    subst hmore
    right
    obtain ⟨name, named, hname, h⟩ := bind_eq_ok_iff.mp h
    cases hfind : members.find? (·.name == name) with
    | some m =>
        rw [hfind] at h
        dsimp only at h
        split at h
        · cases h
        · obtain ⟨_, value, hcolon, h⟩ := bind_eq_ok_iff.mp h
          obtain ⟨a', next, hread, h⟩ := bind_eq_ok_iff.mp h
          refine ⟨name, start, named, value, next, _, a', hanother, hname, hcolon, ?_, h⟩
          rw [readAs, hfind]
          exact within_eq_ok_iff.mp hread
    | none =>
        rw [hfind] at h
        obtain ⟨_, value, hcolon, h⟩ := bind_eq_ok_iff.mp h
        obtain ⟨_, next, hread, h⟩ := bind_eq_ok_iff.mp h
        refine ⟨name, start, named, value, next, _, a, hanother, hname, hcolon, ?_, h⟩
        rw [readAs, hfind]
        exact bind_eq_ok_iff.mpr ⟨(), next, within_eq_ok_iff.mp hread, rfl⟩
  · rename_i hmore
    left
    obtain ⟨rfl, rfl⟩ := pure_eq_ok_iff.mp h
    rw [Bool.not_eq_true] at hmore
    exact ⟨hmore ▸ hanother, rfl⟩

theorem readAs_nil_eq_ok {name : String} {a a' : α} (h : readAs [] name a c = .ok a' c') :
    a' = a ∧ pass c = .ok () c' := by
  obtain ⟨_, last, hpass, hend⟩ := bind_eq_ok_iff.mp h
  obtain ⟨rfl, rfl⟩ := pure_eq_ok_iff.mp hend
  exact ⟨rfl, hpass⟩

theorem readAs_cons_cases {m : Member α} {name : String} {a a' : α}
    (h : readAs (m :: members) name a c = .ok a' c') :
    (name = m.name ∧ m.read a c = .ok a' c') ∨
      name ≠ m.name ∧ readAs members name a c = .ok a' c' := by
  unfold readAs at h ⊢
  by_cases hname : m.name = name
  · have hfind : (m.name == name) = true := beq_iff_eq.mpr hname
    rw [List.find?_cons, hfind] at h
    exact Or.inl ⟨hname.symm, h⟩
  · have hfind : (m.name == name) = false := beq_eq_false_iff_ne.mpr hname
    rw [List.find?_cons, hfind] at h
    exact Or.inr ⟨Ne.symm hname, h⟩

theorem readAs_of_mem {m : Member α} (hm : m ∈ members)
    (hnames : (members.map (·.name)).Nodup) (a : α) : readAs members m.name a = m.read a := by
  induction members with
  | nil => cases hm
  | cons m' rest ih =>
      obtain ⟨hfirst, hnames⟩ := List.nodup_cons.mp hnames
      unfold readAs
      rcases List.mem_cons.mp hm with rfl | hm
      · rw [List.find?_cons, beq_self_eq_true]
      · have hother : (m'.name == m.name) = false :=
          beq_eq_false_iff_ne.mpr fun heq => hfirst (List.mem_map.mpr ⟨m, hm, heq.symm⟩)
        rw [List.find?_cons, hother]
        exact ih hm hnames

-- What a member that is read on its own puts in its place.
theorem Member.of_read_eq_ok {name : String} {presence : Presence} {r : Reader β}
    {put : β → α → α} {a a' : α}
    (h : (Member.of name presence r put).read a c = .ok a' c') :
    ∃ b, r c = .ok b c' ∧ a' = put b a := by
  obtain ⟨b, last, hread, hend⟩ := bind_eq_ok_iff.mp h
  obtain ⟨rfl, rfl⟩ := pure_eq_ok_iff.mp hend
  exact ⟨b, hread, rfl⟩

-- The first item of a record that is written as an array is there, or the record does without it.
theorem itemsOf_cases {shape : String} {index : Nat} {a r : α} {m : Member α}
    (h : itemsOf shape index a (m :: members) c = .ok r c') :
    (∃ start a' next, anotherItem (index = 0) c = .ok true start ∧ m.read a start = .ok a' next ∧
      itemsOf shape (index + 1) a' members next = .ok r c') ∨
    ∃ next, anotherItem (index = 0) c = .ok false next ∧ m.presence = .defaulted ∧
      itemsOf shape (index + 1) a members next = .ok r c' := by
  rw [itemsOf] at h
  obtain ⟨another, start, hanother, h⟩ := bind_eq_ok_iff.mp h
  split at h
  · rename_i hmore
    obtain ⟨a', next, hread, h⟩ := bind_eq_ok_iff.mp h
    exact Or.inl ⟨start, a', next, hmore ▸ hanother, within_eq_ok_iff.mp hread, h⟩
  · rename_i hmore
    split at h
    · rename_i hdefaulted
      rw [Bool.not_eq_true] at hmore
      exact Or.inr ⟨start, hmore ▸ hanother, hdefaulted, h⟩
    · cases h

-- What no item changes stays as it was before.
theorem itemsOf_keeps {f : α → β} {shape : String}
    (hkeeps : ∀ m ∈ members, ∀ a a' c c', m.read a c = .ok a' c' → f a' = f a)
    {index : Nat} {a r : α} (h : itemsOf shape index a members c = .ok r c') : f r = f a := by
  induction members generalizing index a c with
  | nil =>
      cases h
      rfl
  | cons m rest ih =>
      have hrest := fun m hm => hkeeps m (List.mem_cons_of_mem _ hm)
      rcases itemsOf_cases h with ⟨_, a', next, _, hread, h⟩ | ⟨next, _, _, h⟩
      · rw [ih hrest h, hkeeps m List.mem_cons_self _ _ _ _ hread]
      · exact ih hrest h

-- What follows the bracket that a record begins with.
inductive Fields (members : List (Member α)) (blank : α) (c : Cursor) (a : α) : Prop where
  | object {seen : List String} {last : Cursor} (hhead : c.word.rest.head? = some 123)
      (hmembers : membersOf members true [] blank ((c.word.advance 1).rest.length + 1)
        (c.word.advance 1) = .ok (seen, a) last)
  | array {shape : String} {last : Cursor} (hhead : c.word.rest.head? = some 91)
      (hitems : itemsOf shape 0 blank members (c.word.advance 1) = .ok a last)

theorem fields_of_record {name : String} {blank a : α}
    (h : record name members blank c = .ok a c') : Fields members blank c a := by
  unfold record at h
  obtain ⟨b, here, rest, hstart, hrest, h⟩ := exists_of_bind_eq_ok h
  obtain ⟨hhead, rfl⟩ := valueStart_eq_ok_iff.mp hstart
  split at hrest <;> subst hrest
  · obtain ⟨last, hinside, _⟩ := closedBy_eq_ok_iff.mp (located_eq_ok_iff.mp h)
    obtain ⟨_, open', hskip, hinside⟩ := bind_eq_ok_iff.mp hinside
    obtain rfl := skip_eq_ok_iff.mp hskip
    obtain ⟨here, _, hget, hinside⟩ := bind_eq_ok_iff.mp hinside
    obtain ⟨rfl, rfl⟩ := get_eq_ok_iff.mp hget
    obtain ⟨⟨seen, found⟩, end', hmembers, hinside⟩ := bind_eq_ok_iff.mp hinside
    dsimp only at hinside
    cases hmissing : members.find? fun m => m.presence = .required && !seen.contains m.name with
    | some m =>
        rw [hmissing] at hinside
        cases hinside
    | none =>
        rw [hmissing] at hinside
        cases hinside
        exact .object hhead hmembers
  · obtain ⟨last, hinside, _⟩ := closedBy_eq_ok_iff.mp (located_eq_ok_iff.mp h)
    obtain ⟨_, open', hskip, hitems⟩ := bind_eq_ok_iff.mp hinside
    obtain rfl := skip_eq_ok_iff.mp hskip
    exact .array hhead hitems
  · exact absurd h (unexpected_ne_ok _ _)

-- Whether a member can be read does not depend on what the record held before; nor does what is
-- then said of something, `f`, if the member has the given name or nothing else was said before.
def Member.Indifferent (m : Member α) (name : String) (f : α → β) : Prop :=
  ∀ a b a' c c', m.read a c = .ok a' c' →
    ∃ b', m.read b c = .ok b' c' ∧ (m.name = name ∨ f a = f b → f a' = f b')

theorem Member.of_indifferent {γ : Type} {title name : String} {presence : Presence}
    {r : Reader γ} {put : γ → α → α} {f : α → β}
    (hput : ∀ x a b, title = name ∨ f a = f b → f (put x a) = f (put x b)) :
    (Member.of title presence r put).Indifferent name f := by
  intro a b a' c c' h
  obtain ⟨x, hread, rfl⟩ := Member.of_read_eq_ok h
  exact ⟨put x b, bind_eq_ok_iff.mpr ⟨x, c', hread, rfl⟩, hput x a b⟩

theorem Member.checked_indifferent {γ : Type} {title name : String} {presence : Presence}
    {r : Reader γ} {f : α → β} (hother : title ≠ name) :
    (Member.checked title presence r).Indifferent name f :=
  Member.of_indifferent fun _ _ _ h => h.resolve_left hother

-- What a record says of something is settled by the member with some name: it must be there, and
-- no other member has a part in it.
structure Settles (members : List (Member α)) (name : String) (f : α → β) : Prop where
  present : ∃ m ∈ members, m.name = name
  required : ∀ m ∈ members, m.name = name → m.presence = .required
  indifferent : ∀ m ∈ members, m.Indifferent name f

namespace Settles

variable {name : String} {f : α → β} (hs : Settles members name f)

include hs

theorem membersOf {first : Bool} {seen seen' : List String} {a b r : α} {fuel : Nat}
    (hagree : name ∈ seen → f a = f b)
    (h : membersOf members first seen a fuel c = .ok (seen', r) c') :
    ∃ r', Reader.membersOf members first seen b fuel c = .ok (seen', r') c' ∧
      (name ∈ seen' → f r = f r') := by
  induction fuel generalizing first seen a b c with
  | zero =>
      cases h
      exact ⟨b, rfl, hagree⟩
  | succ fuel ih =>
      rw [Reader.membersOf] at h ⊢
      obtain ⟨another, start, hanother, h⟩ := bind_eq_ok_iff.mp h
      rw [bind_of_ok hanother]
      cases another with
      | false =>
          cases h
          exact ⟨b, rfl, hagree⟩
      | true =>
          rw [if_pos rfl] at h ⊢
          obtain ⟨title, named, htitle, h⟩ := bind_eq_ok_iff.mp h
          rw [bind_of_ok htitle]
          cases hfind : members.find? (·.name == title) with
          | some m =>
              rw [hfind] at h
              dsimp only at h ⊢
              have hm := List.mem_of_find?_eq_some hfind
              have hfound := List.find?_some hfind
              have hnamed : m.name = title := beq_iff_eq.mp hfound
              split at h
              · cases h
              rename_i hfresh
              obtain ⟨_, value, hcolon, h⟩ := bind_eq_ok_iff.mp h
              obtain ⟨a', next, hread, h⟩ := bind_eq_ok_iff.mp h
              have hread := within_eq_ok_iff.mp hread
              obtain ⟨b', hread', hsame⟩ := hs.indifferent m hm _ b _ _ _ hread
              rw [if_neg hfresh, bind_of_ok hcolon, bind_of_ok (within_eq_ok_iff.mpr hread')]
              refine ih (fun hmem => hsame ?_) h
              rcases List.mem_cons.mp hmem with rfl | hseen
              · exact Or.inl hnamed
              · exact Or.inr (hagree hseen)
          | none =>
              rw [hfind] at h
              dsimp only at h ⊢
              obtain ⟨_, value, hcolon, h⟩ := bind_eq_ok_iff.mp h
              obtain ⟨_, next, hpass, h⟩ := bind_eq_ok_iff.mp h
              rw [bind_of_ok hcolon, bind_of_ok hpass]
              exact ih hagree h

theorem itemsOf {items : List (Member α)} (hitems : ∀ m ∈ items, m ∈ members) {shape : String}
    {index : Nat} {a b r : α} (hagree : (∀ m ∈ items, m.name ≠ name) → f a = f b)
    (h : itemsOf shape index a items c = .ok r c') :
    ∃ r', Reader.itemsOf shape index b items c = .ok r' c' ∧ f r = f r' := by
  induction items generalizing index a b c with
  | nil =>
      cases h
      exact ⟨b, rfl, hagree nofun⟩
  | cons m rest ih =>
      obtain ⟨hm, hrest⟩ := List.forall_mem_cons.mp hitems
      rw [Reader.itemsOf] at h ⊢
      obtain ⟨another, start, hanother, h⟩ := bind_eq_ok_iff.mp h
      rw [bind_of_ok hanother]
      cases another with
      | true =>
          rw [if_pos rfl] at h ⊢
          obtain ⟨a', next, hread, h⟩ := bind_eq_ok_iff.mp h
          obtain ⟨b', hread', hsame⟩ := hs.indifferent m hm _ b _ _ _ (within_eq_ok_iff.mp hread)
          rw [bind_of_ok (within_eq_ok_iff.mpr hread')]
          refine ih hrest (fun hothers => hsame ?_) h
          by_cases hname : m.name = name
          · exact Or.inl hname
          · exact Or.inr (hagree (List.forall_mem_cons.mpr ⟨hname, hothers⟩))
      | false =>
          rw [if_neg Bool.false_ne_true] at h ⊢
          split at h
          · rename_i hdefaulted
            have hname : m.name ≠ name := by
              intro hname
              rw [hs.required m hm hname] at hdefaulted
              cases hdefaulted
            rw [if_pos hdefaulted]
            exact ih hrest (fun hothers => hagree (List.forall_mem_cons.mpr ⟨hname, hothers⟩)) h
          · cases h

-- A record that can be read can be read whatever it held before, and says the same of `f`.
theorem record {title : String} {blank a : α} (h : record title members blank c = .ok a c')
    (b : α) : ∃ a', Reader.record title members b c = .ok a' c' ∧ f a = f a' := by
  obtain ⟨m, hm, hname⟩ := hs.present
  unfold Reader.record at h ⊢
  obtain ⟨byte, here, rest, hstart, hrest, h⟩ := exists_of_bind_eq_ok h
  rw [bind_of_ok hstart]
  split at hrest <;> subst hrest
  · obtain ⟨last, hinside, hclose⟩ := closedBy_eq_ok_iff.mp (located_eq_ok_iff.mp h)
    obtain ⟨_, open', hskip, hinside⟩ := bind_eq_ok_iff.mp hinside
    obtain ⟨here', _, hget, hinside⟩ := bind_eq_ok_iff.mp hinside
    obtain ⟨⟨seen, found⟩, end', hmembers, hinside⟩ := bind_eq_ok_iff.mp hinside
    dsimp only at hinside
    cases hmissing : members.find? fun m => m.presence = .required && !seen.contains m.name with
    | some m =>
        rw [hmissing] at hinside
        cases hinside
    | none =>
        rw [hmissing] at hinside
        obtain ⟨rfl, rfl⟩ := pure_eq_ok_iff.mp hinside
        have hseen : name ∈ seen := by
          have hthere := List.find?_eq_none.mp hmissing m hm
          simpa [hs.required m hm hname, hname] using hthere
        have hnone : name ∈ [] → f blank = f b := fun hmem => absurd hmem List.not_mem_nil
        obtain ⟨a', hmembers', hsame⟩ := hs.membersOf hnone hmembers
        refine ⟨a', ?_, hsame hseen⟩
        refine located_eq_ok_iff.mpr (closedBy_eq_ok_iff.mpr ⟨_, ?_, hclose⟩)
        rw [bind_of_ok hskip, bind_of_ok hget, bind_of_ok hmembers']
        dsimp only
        rw [hmissing]
        rfl
  · obtain ⟨last, hinside, hclose⟩ := closedBy_eq_ok_iff.mp (located_eq_ok_iff.mp h)
    obtain ⟨_, open', hskip, hitems⟩ := bind_eq_ok_iff.mp hinside
    have hothers : (∀ m ∈ members, m.name ≠ name) → f blank = f b := fun hothers =>
      absurd hname (hothers m hm)
    obtain ⟨a', hitems', hsame⟩ := hs.itemsOf (fun _ h => h) hothers hitems
    refine ⟨a', ?_, hsame⟩
    refine located_eq_ok_iff.mpr (closedBy_eq_ok_iff.mpr ⟨_, ?_, hclose⟩)
    rw [bind_of_ok hskip]
    exact hitems'
  · exact absurd h (unexpected_ne_ok _ _)

-- So does a whole text.
theorem run {title : String} {blank a : α} {text : List UInt8}
    (h : run (Reader.record title members blank) text = .ok a) (b : α) :
    ∃ a', Reader.run (Reader.record title members b) text = .ok a' ∧ f a = f a' := by
  obtain ⟨next, hrecord, hend⟩ := run_eq_ok_iff.mp h
  obtain ⟨a', hrecord', hsame⟩ := hs.record hrecord b
  exact ⟨a', run_eq_ok_iff.mpr ⟨next, hrecord', hend⟩, hsame⟩

end Settles

end Gallery.Json.Reader
