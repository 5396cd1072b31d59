import Gallery.Access.Token
import Gallery.Proofs.Access.Claims
import Gallery.Proofs.Segment
import Gallery.Proofs.Text.Base64

-- What a token proves that is accepted. It has three parts, of which the third is the code of the
-- other two under the secret. The header names the algorithm, the claims name the owner and the
-- expiry, and both must be there.

namespace Gallery.Access

open Json Reader

-- The header of a token must name its algorithm.
theorem Algorithm.settles : Settles members "alg" id where
  present := by decide
  required := by decide
  indifferent := by
    have htext : ∀ title, title ≠ "alg" → (textMember title).Indifferent "alg" id := fun _ =>
      Member.checked_indifferent
    simp only [members, List.forall_mem_cons]
    exact ⟨htext _ (by decide), Member.of_indifferent fun _ _ _ _ => rfl, htext _ (by decide),
      htext _ (by decide), Member.checked_indifferent (by decide), htext _ (by decide),
      htext _ (by decide), Member.checked_indifferent (by decide), htext _ (by decide),
      htext _ (by decide), nofun⟩

theorem TokenClaims.settles_subject : Settles members "sub" TokenClaims.subject where
  present := by decide
  required := by decide
  indifferent := by
    simp only [members, List.forall_mem_cons]
    exact ⟨Member.of_indifferent fun _ _ _ _ => rfl,
      Member.of_indifferent fun _ _ _ h => h.resolve_left (by decide),
      Member.of_indifferent fun _ _ _ h => h.resolve_left (by decide), nofun⟩

theorem TokenClaims.settles_expiry : Settles members "exp" TokenClaims.expiry where
  present := by decide
  required := by decide
  indifferent := by
    simp only [members, List.forall_mem_cons]
    exact ⟨Member.of_indifferent fun _ _ _ h => h.resolve_left (by decide),
      Member.of_indifferent fun _ _ _ _ => rfl,
      Member.of_indifferent fun _ _ _ h => h.resolve_left (by decide), nofun⟩

-- The first place where a list is split, if there is one.
theorem splits_iff {α : Type} [DecidableEq α] {sep : α} {xs before after : List α} :
    (∃ first, xs.dropWhile (· ≠ sep) = first :: after) ∧ xs.takeWhile (· ≠ sep) = before ↔
      xs = before ++ sep :: after ∧ sep ∉ before := by
  constructor
  · rintro ⟨⟨first, hdrop⟩, rfl⟩
    have hfirst : first = sep := by
      have hstop := List.head?_dropWhile_not (· ≠ sep) xs
      rw [hdrop] at hstop
      simpa using hstop
    refine ⟨?_, fun hmem => ?_⟩
    · rw [hfirst] at hdrop
      rw [← hdrop, List.takeWhile_append_dropWhile]
    · simpa using List.mem_takeWhile_imp hmem
  · rintro ⟨rfl, hbefore⟩
    have hall : ∀ x ∈ before, decide (x ≠ sep) = true := by
      intro x hx
      rw [decide_eq_true_iff]
      rintro rfl
      exact hbefore hx
    rw [List.dropWhile_append_of_pos hall, List.takeWhile_append_of_pos hall]
    simp

namespace Token

theorem splitLast_eq_some_iff {bytes before after : List UInt8} :
    splitLast bytes = some (before, after) ↔
      bytes = before ++ separator :: after ∧ separator ∉ after := by
  constructor
  · intro h
    unfold splitLast at h
    dsimp only at h
    split at h
    · cases h
    · rename_i first rest hdrop
      cases h
      obtain ⟨hsplit, hfree⟩ := splits_iff.mp ⟨⟨first, hdrop⟩, rfl⟩
      refine ⟨?_, by rwa [List.mem_reverse]⟩
      have hbytes := congrArg List.reverse hsplit
      rwa [List.reverse_reverse, List.reverse_append, List.reverse_cons, List.append_assoc,
        List.singleton_append] at hbytes
  · rintro ⟨rfl, hfree⟩
    have hreverse : (before ++ separator :: after).reverse =
        after.reverse ++ separator :: before.reverse := by simp
    obtain ⟨⟨first, hdrop⟩, htake⟩ := splits_iff.mpr ⟨hreverse, by rwa [List.mem_reverse]⟩
    unfold splitLast
    simp only [hdrop, htake, List.reverse_reverse]

theorem separator_not_mem_encodeUrlSafe (bytes : List UInt8) :
    separator ∉ Text.Base64.encodeUrlSafe bytes := fun h =>
  Text.Base64.forall_mem_encodeIn .urlSafe false (p := (· ≠ separator)) (by decide) (by decide)
    bytes separator h rfl

-- The message that is signed: the first two parts of a token.
def messageOf (header payload : List UInt8) : List UInt8 :=
  Text.Base64.encodeUrlSafe header ++ separator :: Text.Base64.encodeUrlSafe payload

def signatureOf (secret : String) (message : List UInt8) : List UInt8 :=
  Text.Base64.encodeUrlSafe (mac (Text.utf8 secret) message)

-- What a token proves: its three parts are a header, claims and the signature of both, the header
-- says that they are signed like this, and the claims say who the owner is and that they have
-- not expired. Neither reads differently if something else is supposed beforehand, so both say
-- so themselves.
inductive Proves (secret : String) (now : Int) (token : String) (owner : Owner) : Prop where
  | intro (header payload : List UInt8) (expiry : Nat)
      (parts : (Text.utf8 token).splitOn separator =
        [Text.Base64.encodeUrlSafe header, Text.Base64.encodeUrlSafe payload,
          signatureOf secret (messageOf header payload)])
      (algorithm : ∀ blank, run (record "Header" Algorithm.members blank) header =
        .ok .hmacSha256)
      (claims : ∀ blank, ∃ issuedAt, run (record "JwtClaims" TokenClaims.members blank) payload =
        .ok ⟨owner.text, expiry, issuedAt⟩)
      (checks : run ClaimChecks.reader payload = .ok ⟨some expiry, false⟩)
      (unexpired : now ≤ expiry)
      (subject : Segment.Grammatical owner.text)

-- Three parts of base64 are what is left of two splits at the last separator.
theorem splitOn_eq_iff {bytes header payload code : List UInt8} :
    bytes.splitOn separator = [Text.Base64.encodeUrlSafe header,
        Text.Base64.encodeUrlSafe payload, Text.Base64.encodeUrlSafe code] ↔
      splitLast bytes = some (messageOf header payload, Text.Base64.encodeUrlSafe code) ∧
        splitLast (messageOf header payload) =
          some (Text.Base64.encodeUrlSafe header, Text.Base64.encodeUrlSafe payload) := by
  simp only [splitLast_eq_some_iff, separator_not_mem_encodeUrlSafe, not_false_eq_true, and_true,
    messageOf]
  constructor
  · intro h
    have hjoined : [separator].intercalate (bytes.splitOn separator) = bytes :=
      List.intercalate_splitOn separator
    rw [h] at hjoined
    simpa [List.intercalate] using hjoined.symm
  · rintro rfl
    rw [List.append_assoc, List.cons_append,
      List.splitOn_append_cons_self_of_not_mem (separator_not_mem_encodeUrlSafe header),
      List.splitOn_append_cons_self_of_not_mem (separator_not_mem_encodeUrlSafe payload),
      List.splitOn_eq_singleton (separator_not_mem_encodeUrlSafe code)]

theorem decoded_eq_ok_iff {part bytes : List UInt8} :
    decoded part = .ok bytes ↔ part = Text.Base64.encodeUrlSafe bytes := by
  rw [decoded, Except.mapError_eq_ok_iff, Text.Base64.decodeUrlSafe_eq_ok_iff]

theorem parsed_eq_ok_iff {α : Type} {r : Reader α} {text : List UInt8} {a : α} :
    parsed r text = .ok a ↔ run r text = .ok a := Except.mapError_eq_ok_iff

variable {secret : String} {now : Int} {token : String} {owner : Owner}

theorem proves_of_verify (h : verify secret now token = .ok owner) :
    Proves secret now token owner := by
  unfold verify at h
  obtain ⟨⟨message, signature⟩, hmessage, h⟩ := Except.exists_of_bind_eq_ok h
  obtain ⟨⟨first, second⟩, hparts, h⟩ := Except.exists_of_bind_eq_ok h
  obtain ⟨header, hheader, h⟩ := Except.exists_of_bind_eq_ok h
  obtain ⟨algorithm, halgorithm, h⟩ := Except.exists_of_bind_eq_ok h
  split at h; · cases h
  rename_i hchosen
  split at h; · cases h
  rename_i hsignature
  obtain ⟨payload, hpayload, h⟩ := Except.exists_of_bind_eq_ok h
  obtain ⟨claims, hclaims, h⟩ := Except.exists_of_bind_eq_ok h
  obtain ⟨⟨expiry, hasAudience⟩, hchecks, h⟩ := Except.exists_of_bind_eq_ok h
  dsimp only at h
  split at h; · cases h
  rename_i expiry
  split at h; · cases h
  rename_i hexpired
  split at h; · cases h
  rename_i haudience
  have hsubject := Segment.parse_eq_ok_iff.mp (Except.eq_ok_of_mapError_eq_ok h)
  have hmessage := Except.eq_some_of_elim_eq_ok hmessage
  have hparts := Except.eq_some_of_elim_eq_ok hparts
  obtain rfl := decoded_eq_ok_iff.mp hheader
  obtain rfl := decoded_eq_ok_iff.mp hpayload
  obtain rfl := not_not.mp hchosen
  obtain rfl := not_not.mp hsignature
  obtain rfl := eq_false_of_ne_true haudience
  have halgorithm := parsed_eq_ok_iff.mp halgorithm
  have hclaims := parsed_eq_ok_iff.mp hclaims
  have hchecks := parsed_eq_ok_iff.mp hchecks
  obtain ⟨rfl, _⟩ := splitLast_eq_some_iff.mp hparts
  refine .intro header payload expiry ?_ ?_ ?_ hchecks (Int.not_lt.mp hexpired) owner.grammatical
  · exact splitOn_eq_iff.mpr ⟨hmessage, hparts⟩
  · intro blank
    obtain ⟨_, hread, rfl⟩ := Algorithm.settles.run halgorithm blank
    exact hread
  · intro blank
    obtain ⟨claims', hread, hsame⟩ := TokenClaims.settles_subject.run hclaims blank
    obtain ⟨_, hread', hsame'⟩ := TokenClaims.settles_expiry.run hclaims blank
    rw [hread] at hread'
    cases hread'
    have hexpiry := ClaimChecks.agrees_of_run hclaims hchecks expiry rfl
    refine ⟨claims'.issuedAt, ?_⟩
    rw [hread, hsubject, hsame, ← hexpiry, hsame']

theorem verify_of_proves (h : Proves secret now token owner) :
    verify secret now token = .ok owner := by
  obtain ⟨header, payload, expiry, hparts, halgorithm, hclaims, hchecks, hunexpired, _⟩ := h
  obtain ⟨hmessage, hpayload⟩ := splitOn_eq_iff.mp hparts
  obtain ⟨issuedAt, hclaims⟩ := hclaims ⟨"", 0, none⟩
  unfold verify
  rw [hmessage]
  refine Except.bind_eq_ok_iff.mpr ⟨_, rfl, ?_⟩
  dsimp only
  rw [hpayload]
  refine Except.bind_eq_ok_iff.mpr ⟨_, rfl, ?_⟩
  refine Except.bind_eq_ok_iff.mpr ⟨header, decoded_eq_ok_iff.mpr rfl, ?_⟩
  refine Except.bind_eq_ok_iff.mpr ⟨_, parsed_eq_ok_iff.mpr (halgorithm _), ?_⟩
  rw [if_neg (not_not.mpr rfl), if_neg fun hsigned => hsigned rfl]
  refine Except.bind_eq_ok_iff.mpr ⟨payload, decoded_eq_ok_iff.mpr rfl, ?_⟩
  refine Except.bind_eq_ok_iff.mpr ⟨_, parsed_eq_ok_iff.mpr hclaims, ?_⟩
  refine Except.bind_eq_ok_iff.mpr ⟨_, parsed_eq_ok_iff.mpr hchecks, ?_⟩
  dsimp only
  rw [if_neg (Int.not_lt.mpr hunexpired), if_neg Bool.false_ne_true, Segment.parse_text]
  rfl

-- A token is accepted for an owner just when it proves that it speaks for it.
theorem verify_eq_ok_iff :
    verify secret now token = .ok owner ↔ Proves secret now token owner :=
  ⟨proves_of_verify, verify_of_proves⟩

-- The claims that a token carries, whether it is to be accepted or not.
def claims? (token : String) : Option TokenClaims := do
  let (message, _) ← splitLast (Text.utf8 token)
  let (_, payload) ← splitLast message
  let text ← (Text.Base64.decodeUrlSafe payload).toOption
  (Reader.run TokenClaims.reader text).toOption

-- The owner that an accepted token speaks for is the subject of its claims.
theorem claims_of_verify (h : verify secret now token = .ok owner) :
    ∃ claims, claims? token = some claims ∧ claims.subject = owner.text := by
  obtain ⟨header, payload, expiry, hparts, _, hclaims, _⟩ := proves_of_verify h
  obtain ⟨hmessage, hpayload⟩ := splitOn_eq_iff.mp hparts
  obtain ⟨issuedAt, hread⟩ := hclaims ⟨"", 0, none⟩
  have hdecoded := (Text.Base64.decodeUrlSafe_eq_ok_iff _ payload).mpr rfl
  refine ⟨⟨owner.text, expiry, issuedAt⟩, ?_, rfl⟩
  simp only [claims?, hmessage, hpayload, hdecoded, TokenClaims.reader, hread, Except.toOption,
    bind, Option.bind]

end Token

-- What a header must be to bring a token: without the blanks around it, it is split by its first
-- space into the word `bearer`, in letters of either case, and the token with blanks around it.
inductive Brings (header token : String) : Prop where
  | intro (scheme rest : List Char)
      (split : Text.trimChars header.toList = scheme ++ ' ' :: rest) (first : ' ' ∉ scheme)
      (word : String.ofList (scheme.map Char.toLower) = "bearer")
      (trimmed : token.toList = Text.trimChars rest) (filled : token ≠ "")

theorem bearerToken_eq_some_iff {header token : String} :
    bearerToken header = some token ↔ Brings header token := by
  unfold bearerToken
  dsimp only
  constructor
  · intro h
    split at h
    · cases h
    rename_i first rest hdrop
    split at h
    · cases h
    rename_i hword
    split at h
    · cases h
    rename_i hfilled
    cases h
    obtain ⟨hsplit, hfirst⟩ := splits_iff.mp ⟨⟨first, hdrop⟩, rfl⟩
    refine .intro _ rest hsplit hfirst (not_not.mp hword) (String.toList_ofList) ?_
    intro hempty
    exact hfilled (by simpa using congrArg String.toList hempty)
  · rintro ⟨scheme, rest, hsplit, hfirst, hword, htrimmed, hfilled⟩
    obtain ⟨⟨first, hdrop⟩, htake⟩ := splits_iff.mpr ⟨hsplit, hfirst⟩
    simp only [hdrop, htake, hword, ne_eq, not_true, if_false]
    split
    · rename_i hnone
      rw [hnone, String.toList_eq_nil_iff] at htrimmed
      exact absurd htrimmed hfilled
    · rw [← htrimmed, String.ofList_toList]

end Gallery.Access
