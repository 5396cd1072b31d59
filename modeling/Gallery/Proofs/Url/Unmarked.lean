import Gallery.Proofs.Except
import Gallery.Proofs.Text.Number
import Gallery.Url.Reading

namespace Gallery.Url

-- No mark in the text begins a query or a fragment.
def Unmarked (cs : List Char) : Prop := ∀ c ∈ cs, c ≠ '?' ∧ c ≠ '#'

@[simp] theorem unmarked_nil : Unmarked [] := by
  intro c hc
  cases hc

@[simp] theorem unmarked_cons (c : Char) (cs : List Char) :
    Unmarked (c :: cs) ↔ (c ≠ '?' ∧ c ≠ '#') ∧ Unmarked cs := List.forall_mem_cons

@[simp] theorem unmarked_append (cs ds : List Char) :
    Unmarked (cs ++ ds) ↔ Unmarked cs ∧ Unmarked ds := List.forall_mem_append

theorem unmarked_flatMap {α : Type} {xs : List α} {f : α → List Char}
    (h : ∀ x ∈ xs, Unmarked (f x)) : Unmarked (xs.flatMap f) := by
  intro c hc
  obtain ⟨x, hx, hcx⟩ := List.mem_flatMap.mp hc
  exact h x hx c hcx

theorem unmarked_intercalate {separator : List Char} {texts : List (List Char)}
    (hseparator : Unmarked separator) (h : ∀ text ∈ texts, Unmarked text) :
    Unmarked (separator.intercalate texts) := by
  induction texts with
  | nil => exact unmarked_nil
  | cons first rest ih =>
      have hfirst : Unmarked first := h first (by simp)
      have hrest := ih fun text ht => h text (by simp [ht])
      cases rest with
      | nil => simpa using hfirst
      | cons second others =>
          rw [List.intercalate_cons_cons, unmarked_append, unmarked_append]
          exact ⟨⟨hfirst, hseparator⟩, hrest⟩

theorem unmarked_toDigits {base : Nat} (hbase : 1 < base) (n : Nat) :
    Unmarked (Nat.toDigits base n) := by
  intro c hc
  obtain ⟨digit, _, rfl⟩ := Text.exists_digit_of_mem_toDigits hbase n c hc
  exact ⟨Nat.digitChar_ne '?' (by decide), Nat.digitChar_ne '#' (by decide)⟩

-- What percent encoding writes has a mark only where the mark may stand for itself.
theorem unmarked_percentEncode {stays : Char → Bool} (hquery : stays '?' = false)
    (hfragment : stays '#' = false) (cs : List Char) :
    Unmarked (Text.percentEncode stays cs) := by
  have hbyte : ∀ n < 256, (Text.percentByte (UInt8.ofNat n)).all
      (fun c => c != '?' && c != '#') = true := by
    decide +kernel
  unfold Text.percentEncode
  refine unmarked_flatMap fun c _ => ?_
  by_cases hc : stays c = true
  · rw [if_pos hc, unmarked_cons]
    refine ⟨⟨?_, ?_⟩, unmarked_nil⟩
    · rintro rfl
      rw [hquery] at hc
      cases hc
    · rintro rfl
      rw [hfragment] at hc
      cases hc
  · rw [if_neg hc]
    refine unmarked_flatMap fun b _ => ?_
    have hb := hbyte b.toNat b.toNat_lt
    rw [UInt8.ofNat_toNat, List.all_eq_true] at hb
    intro d hd
    simpa using hb d hd

namespace Path

-- The segments that are left were there before, or are empty.
theorem mem_resolve {done segments : List (List Char)} {segment : List Char}
    (h : segment ∈ resolve done segments) :
    segment ∈ done ∨ segment ∈ segments ∨ segment = [] := by
  have habove : ∀ done : List (List Char), ∀ s ∈ above done, s ∈ done := by
    intro done s hs
    cases done with
    | nil => cases hs
    | cons last before =>
        rw [above] at hs
        split at hs
        · exact hs
        · exact List.mem_cons_of_mem _ hs
  fun_induction resolve done segments with
  | case1 done => exact Or.inl h
  | case2 done last hparent =>
      rcases List.mem_cons.mp h with rfl | h
      · exact Or.inr (Or.inr rfl)
      · exact Or.inl (habove done _ h)
  | case3 done last _ hsame =>
      rcases List.mem_cons.mp h with rfl | h
      · exact Or.inr (Or.inr rfl)
      · exact Or.inl h
  | case4 done last _ _ =>
      rcases List.mem_cons.mp h with rfl | h
      · exact Or.inr (Or.inl (by simp))
      · exact Or.inl h
  | case5 done first rest _ _ ih =>
      rcases ih h with h | h | h
      · exact Or.inl (habove done _ h)
      · exact Or.inr (Or.inl (by simp [h]))
      · exact Or.inr (Or.inr h)
  | case6 done first rest _ _ _ ih =>
      rcases ih h with h | h | h
      · exact Or.inl h
      · exact Or.inr (Or.inl (by simp [h]))
      · exact Or.inr (Or.inr h)
  | case7 done first rest _ _ _ ih =>
      rcases ih h with h | h | h
      · rcases List.mem_cons.mp h with rfl | h
        · exact Or.inr (Or.inl (by simp))
        · exact Or.inl h
      · exact Or.inr (Or.inl (by simp [h]))
      · exact Or.inr (Or.inr h)

theorem unmarked_ofText (cs : List Char) : Unmarked (ofText cs) := by
  unfold ofText
  refine unmarked_flatMap fun segment hsegment => ?_
  rw [unmarked_cons]
  refine ⟨by decide, ?_⟩
  rcases mem_resolve (List.mem_reverse.mp hsegment) with hdone | hwritten | rfl
  · cases hdone
  · obtain ⟨raw, _, rfl⟩ := List.mem_map.mp hwritten
    exact unmarked_percentEncode (by decide) (by decide) raw
  · exact unmarked_nil

end Path

namespace Host

theorem unmarked_shown (groups : List Nat) : Unmarked (Ipv6.shown groups) := by
  refine unmarked_intercalate (by simp) fun text ht => ?_
  obtain ⟨n, _, rfl⟩ := List.mem_map.mp ht
  exact unmarked_toDigits (by decide) n

theorem unmarked_ipv6 (a : Ipv6) : Unmarked a.text := by
  unfold Ipv6.text
  simp only
  split
  · exact unmarked_shown _
  · simp [unmarked_shown]

theorem unmarked_ipv4 (a : Ipv4) : Unmarked a.text := by
  refine unmarked_intercalate (by simp) fun text ht => ?_
  obtain ⟨n, _, rfl⟩ := List.mem_map.mp ht
  exact unmarked_toDigits (by decide) _

theorem unmarked_domain {bytes : ByteArray} {name : List Char}
    (h : Domain.ascii? bytes = some name) : Unmarked name := by
  unfold Domain.ascii? at h
  obtain ⟨text, _, h⟩ := Option.bind_eq_some_iff.mp h
  obtain ⟨mapped, _, h⟩ := Option.bind_eq_some_iff.mp h
  obtain ⟨labels, _, h⟩ := Option.bind_eq_some_iff.mp h
  split at h; · cases h
  split at h; · cases h
  obtain ⟨written, _, h⟩ := Option.bind_eq_some_iff.mp h
  simp only at h
  split at h; · cases h
  rename_i hforbidden
  cases h
  intro c hc
  have hallowed : Domain.isForbidden c = false := by
    simp only [Bool.not_eq_true, List.any_eq_false] at hforbidden
    simpa using hforbidden c hc
  refine ⟨?_, ?_⟩
  · rintro rfl
    exact absurd hallowed (by decide)
  · rintro rfl
    exact absurd hallowed (by decide)

theorem unmarked_ofText {cs host : List Char} (h : ofText cs = .ok host) : Unmarked host := by
  unfold ofText at h
  split at h
  · unfold bracketed at h
    split at h
    · split at h
      · cases h
        simp [unmarked_ipv6]
      · cases h
    · cases h
  · simp only at h
    split at h
    · cases h
    · cases h
    · rename_i name hname
      split at h
      · split at h
        · cases h
          exact unmarked_ipv4 _
        · cases h
      · cases h
        exact unmarked_domain hname

end Host

theorem unmarked_credentials (cs : List Char) : Unmarked (credentials cs) := by
  have hencoded : ∀ cs, Unmarked (Text.percentEncode keepsInCredentials cs) := fun cs =>
    unmarked_percentEncode (by decide) (by decide) cs
  unfold credentials
  simp only
  split
  · split
    · exact unmarked_nil
    · simp [hencoded]
  · simp [hencoded]

theorem unmarked_splitCredentials {kind : Kind} {cs written rest : List Char}
    (h : splitCredentials kind cs = .ok (written, rest)) : Unmarked written := by
  unfold splitCredentials at h
  simp only at h
  split at h
  · cases h
    exact unmarked_nil
  · split at h
    · cases h
    · cases h
      exact unmarked_credentials _

-- What is written of an authority and of a path has no mark in it.
theorem unmarked_readLocated {scheme found : String} {authority : UrlAuthority}
    {cs path : List Char} {carriesMore : Bool}
    (h : readLocated scheme cs = .ok (.located found authority path carriesMore)) :
    Unmarked authority.text ∧ Unmarked path := by
  unfold readLocated at h
  obtain ⟨⟨written, rest⟩, hcredentials, h⟩ := Except.exists_of_bind_eq_ok h
  simp only at h
  split at h
  · cases h
  · obtain ⟨host, hhost, h⟩ := Except.exists_of_bind_eq_ok h
    obtain ⟨⟨port, after⟩, _, h⟩ := Except.exists_of_bind_eq_ok h
    cases h
    refine ⟨?_, Path.unmarked_ofText _⟩
    simp only [UrlAuthority.text, unmarked_append]
    refine ⟨⟨unmarked_splitCredentials hcredentials, Host.unmarked_ofText hhost⟩, ?_⟩
    cases port with
    | none => exact unmarked_nil
    | some n => simp [unmarked_toDigits]

theorem unmarked_ofText {scheme : String} {authority : UrlAuthority} {cs path : List Char}
    {carriesMore : Bool} (h : ofText cs = .ok (.located scheme authority path carriesMore)) :
    Unmarked authority.text ∧ Unmarked path := by
  unfold ofText at h
  obtain ⟨⟨found, rest⟩, _, h⟩ := Except.exists_of_bind_eq_ok h
  simp only at h
  split at h
  · exact unmarked_readLocated h
  · obtain ⟨_, _, h⟩ := Except.exists_of_bind_eq_ok h
    cases h
  · split at h
    · obtain ⟨_, _, h⟩ := Except.exists_of_bind_eq_ok h
      cases h
    · cases h

end Gallery.Url
