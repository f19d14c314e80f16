/-
Whom a verifier lets in.

A credential is trimmed first. What is left is either the service token or a signed token: `Claims.StandsFor` says
who claims stand for, and `Verifier.Signs` which tokens a verifier takes for signed.

  * `verify_eq_ok_iff`: nobody is let in on account of anything else.
  * `issued_token_verified`: a token that was issued under the secret of a verifier says the claims that it was issued
    for and lets in whom they stand for, until it expires. No text in the claims is an exception.
  * `credentials_genuine`: what is let in, with the forms of both kinds of credential written out, and that nobody can
    make one signed token into another by changing its last part.
-/
import ErrandHub.Credential.Verifier
import ErrandHub.Proofs.Credential.Token

namespace ErrandHub

/-! ## Who claims stand for -/

namespace Identity

theorem parse_eq_ok_iff {s : String} {i : Identity} :
    parse s = .ok i ↔ Text.isBlank s = false ∧ i = ⟨s⟩ := by
  unfold parse
  cases Text.isBlank s with
  | true =>
    constructor
    · intro h
      cases h
    · rintro ⟨h, -⟩
      cases h
  | false =>
    constructor
    · intro h
      cases h
      exact ⟨rfl, rfl⟩
    · rintro ⟨-, rfl⟩
      rfl

end Identity

/-- claims stand for a user in a role -/
structure Claims.StandsFor (c : Claims) (who : Verified) : Prop where
  /-- the user is the subject as it stands, which is not blank -/
  identity : Text.isBlank c.subject = false ∧ who.identity = ⟨c.subject⟩
  /-- without a role the user is a customer -/
  role : c.role = none ∧ who.role = .customer ∨ ∃ name, c.role = some name ∧ Role.parse name = .ok who.role

namespace Verifier

variable {v : Verifier} {now : Nat} {token credential : String} {who : Verified} {c : Claims}

/-- a role that is left out is a customer's -/
theorem role_eq_ok_iff {role : Option String} {r : Role} :
    (role.map Role.parse).getD (.ok .customer) = .ok r ↔
      role = none ∧ r = .customer ∨ ∃ name, role = some name ∧ Role.parse name = .ok r := by
  cases role with
  | none =>
    constructor
    · intro h
      cases h
      exact .inl ⟨rfl, rfl⟩
    · rintro (⟨-, rfl⟩ | ⟨name, h, -⟩)
      · rfl
      · cases h
  | some name =>
    constructor
    · intro h
      exact .inr ⟨name, rfl, h⟩
    · rintro (⟨h, -⟩ | ⟨name', h, hrole⟩)
      · cases h
      · cases h
        exact hrole

theorem ofClaims_eq_ok_iff : ofClaims c = .ok who ↔ c.StandsFor who := by
  constructor
  · intro h
    unfold ofClaims at h
    split at h
    · cases h
    rename_i role hrole
    split at h
    · cases h
    rename_i identity hidentity
    cases h
    exact ⟨Identity.parse_eq_ok_iff.1 hidentity, role_eq_ok_iff.1 hrole⟩
  · intro h
    have hidentity := Identity.parse_eq_ok_iff.2 h.identity
    have hrole := role_eq_ok_iff.2 h.role
    simp only [ofClaims, hidentity, hrole]

/-! ## What a verifier looks at -/

/-- the service token is compared byte by byte -/
theorem isService_iff : v.isService token = true ↔ v.service = some ⟨token⟩ := by
  unfold isService
  cases hservice : v.service with
  | none => simp
  | some s =>
    obtain ⟨exposed⟩ := s
    rw [Hmac.equal_iff, Utf8.bytes_injective.eq_iff, Option.some_inj, Secret.mk.injEq]

/-- a text is a token that is signed with the secret of a verifier, is not expired and stands for a user -/
def Signs (v : Verifier) (now : Nat) (token : String) (who : Verified) : Prop :=
  ∃ secret payload signature claims, v.secret = some secret ∧
    Token.Genuine secret.exposed token payload signature claims ∧ now < claims.expiry.toNat ∧ claims.StandsFor who

theorem verify_of_not_service (trimmed : Text.trimmed? credential = some token) (other : v.service ≠ some ⟨token⟩) :
    v.verify now credential = .ok who ↔ v.Signs now token who := by
  have hservice : v.isService token = false := Bool.eq_false_iff.2 (mt isService_iff.1 other)
  unfold verify
  simp only [trimmed, hservice, Bool.false_eq_true, ↓reduceIte]
  constructor
  · intro h
    split at h
    · cases h
    rename_i secret hsecret
    split at h
    · cases h
    rename_i claims hclaims
    obtain ⟨payload, signature, genuine, early⟩ := Token.claims_eq_ok_iff.1 hclaims
    exact ⟨secret, payload, signature, claims, hsecret, genuine, early, ofClaims_eq_ok_iff.1 h⟩
  · rintro ⟨secret, payload, signature, claims, hsecret, genuine, early, stands⟩
    have hclaims := Token.claims_eq_ok_iff.2 ⟨payload, signature, genuine, early⟩
    simp only [hsecret, hclaims]
    exact ofClaims_eq_ok_iff.2 stands

theorem verify_of_service (trimmed : Text.trimmed? credential = some token) (same : v.service = some ⟨token⟩) :
    v.verify now credential = .ok ⟨.system, .system⟩ := by
  unfold verify
  simp only [trimmed, isService_iff.2 same, ↓reduceIte]

/-- beside the service token, a verifier lets in whom signed tokens stand for -/
theorem verify_eq_ok_iff : v.verify now credential = .ok who ↔
    Text.trim credential ≠ "" ∧
      (v.service = some ⟨Text.trim credential⟩ ∧ who = ⟨.system, .system⟩ ∨
        v.service ≠ some ⟨Text.trim credential⟩ ∧ v.Signs now (Text.trim credential) who) := by
  by_cases hblank : Text.trim credential = ""
  · have missing : Text.trimmed? credential = none := if_pos (Text.isBlank_iff.2 hblank)
    constructor
    · intro h
      rw [verify, missing] at h
      cases h
    · rintro ⟨filled, -⟩
      exact absurd hblank filled
  have trimmed : Text.trimmed? credential = some (Text.trim credential) := Text.trimmed?_eq_some_iff.2 ⟨hblank, rfl⟩
  by_cases hservice : v.service = some ⟨Text.trim credential⟩
  · rw [verify_of_service trimmed hservice]
    constructor
    · intro h
      cases h
      exact ⟨hblank, .inl ⟨hservice, rfl⟩⟩
    · rintro ⟨-, ⟨-, rfl⟩ | ⟨other, -⟩⟩
      · rfl
      · exact absurd hservice other
  · rw [verify_of_not_service trimmed hservice]
    constructor
    · intro signs
      exact ⟨hblank, .inr ⟨hservice, signs⟩⟩
    · rintro ⟨-, ⟨same, -⟩ | ⟨-, signs⟩⟩
      · exact absurd same hservice
      · exact signs

/-! ## Issued tokens -/

/-- **An issued token is read back.** Whatever text its subject and its role are, whatever word its expiry and whatever
text the secret: until the token expires it says the claims that it was issued for, and after that "token expired". A
verifier with the secret, whose service token is another, lets in exactly whom the claims stand for, until then. -/
theorem issued_token_verified (c : Claims) (secret : String) (now : Nat) :
    (∃ e : AuthError, e.message = "token expired" ∧
      Token.claims now secret (Token.issue c secret) = if now < c.expiry.toNat then .ok c else .error e) ∧
    ∀ service : Option Secret, service ≠ some ⟨Token.issue c secret⟩ → ∀ who,
      verify ⟨some ⟨secret⟩, service⟩ now (Token.issue c secret) = .ok who ↔
        now < c.expiry.toNat ∧ c.StandsFor who := by
  obtain ⟨payload, signature, genuine⟩ := Token.genuine_issue c secret
  have read := Token.claims_of_genuine genuine now
  refine ⟨⟨.expired, rfl, ?_⟩, ?_⟩
  · rw [read]
    by_cases early : now < c.expiry.toNat
    · rw [if_pos early, if_neg (Nat.not_le.2 early)]
    · rw [if_neg early, if_pos (Nat.not_lt.1 early)]
  · intro service other who
    rw [verify_of_not_service (Token.trimmed?_issue c secret) other]
    constructor
    · rintro ⟨s, p, q, claims, known, genuine', early, stands⟩
      cases known
      have same := Token.claims_eq_ok_iff.2 ⟨p, q, genuine', early⟩
      rw [read] at same
      split at same
      · cases same
      cases same
      exact ⟨early, stands⟩
    · rintro ⟨early, stands⟩
      exact ⟨⟨secret⟩, payload, signature, c, rfl, genuine, early, stands⟩

/-- a subject with a quote, a dot, a line break and letters of other scripts, in the role that "Agent" is read as -/
theorem issued_token_verified_agent :
    let c : Claims := ⟨" a\"b.\n\x01é漢 ", 0xFFFFFFFFFFFFFFFF, some " Agent "⟩
    verify ⟨some ⟨"s3cret"⟩, some ⟨"sibling"⟩⟩ 1700000000 (Token.issue c "s3cret") = .ok ⟨⟨c.subject⟩, .staff⟩ := by
  intro c
  have other : some (⟨"sibling"⟩ : Secret) ≠ some ⟨Token.issue c "s3cret"⟩ := by
    intro same
    have first : (Token.issue c "s3cret").toList.head? = some 'v' := by
      rw [Token.issue, String.toList_ofList]
      rfl
    rw [← Secret.mk.inj (Option.some.inj same)] at first
    revert first
    decide
  have stands : c.StandsFor ⟨⟨c.subject⟩, .staff⟩ := by
    refine ⟨⟨by decide, rfl⟩, .inr ⟨" Agent ", rfl, ?_⟩⟩
    decide +kernel
  have early : 1700000000 < c.expiry.toNat := by decide
  exact ((issued_token_verified c "s3cret" 1700000000).2 _ other _).2 ⟨early, stands⟩

/-! ## Genuine credentials -/

/-- some verifier with the secret takes a token of these parts for signed, at some time -/
def Takes (secret : Secret) (payload signature : List Char) : Prop :=
  ∃ (v : Verifier) (now : Nat) (credential : String) (who : Verified), v.secret = some secret ∧
    Text.trim credential = Token.joined payload signature ∧
    v.service ≠ some ⟨Token.joined payload signature⟩ ∧ v.verify now credential = .ok who

/-- the third part of a token that is taken for signed follows from the second -/
theorem signature_of_takes {secret : Secret} {payload signature : List Char} (h : Takes secret payload signature) :
    signature = Base64Url.encode (Hmac.sign (Utf8.bytes secret.exposed) (Utf8.encode payload)) := by
  obtain ⟨v, now, credential, who, known, form, other, accepted⟩ := h
  rw [verify_eq_ok_iff, form] at accepted
  obtain ⟨-, ⟨same, -⟩ | ⟨-, s, p, q, claims, known', genuine, -, -⟩⟩ := accepted
  · exact absurd same other
  · obtain rfl : secret = s := Option.some_inj.1 (known.symm.trans known')
    exact genuine.signature_eq

/-- **Credentials are accepted only when genuine.** With the trimmed credential not empty, either it is the service
token, and stands for the hub's own identity, or it is a signed token that is not expired and stands for a user. Whether
it is let in at all does not depend on which of the two is looked at first. After one second part, no verifier with the
secret takes more than one third part for signed. -/
theorem credentials_genuine :
    (∀ (v : Verifier) (now : Nat) (credential : String) (who : Verified), v.verify now credential = .ok who ↔
      Text.trim credential ≠ "" ∧
        (v.service = some ⟨Text.trim credential⟩ ∧ who = ⟨⟨"system"⟩, .system⟩ ∨
          v.service ≠ some ⟨Text.trim credential⟩ ∧ v.Signs now (Text.trim credential) who)) ∧
    (∀ (v : Verifier) (now : Nat) (credential : String), (∃ who, v.verify now credential = .ok who) ↔
      Text.trim credential ≠ "" ∧
        (v.service = some ⟨Text.trim credential⟩ ∨ ∃ who, v.Signs now (Text.trim credential) who)) ∧
    ∀ (secret : Secret) (payload : List Char), {signature | Takes secret payload signature}.Subsingleton := by
  refine ⟨fun v now credential who => verify_eq_ok_iff, ?_, ?_⟩
  · intro v now credential
    simp only [verify_eq_ok_iff]
    constructor
    · rintro ⟨who, filled, ⟨same, -⟩ | ⟨-, signs⟩⟩
      · exact ⟨filled, .inl same⟩
      · exact ⟨filled, .inr ⟨who, signs⟩⟩
    · rintro ⟨filled, accepted⟩
      by_cases same : v.service = some ⟨Text.trim credential⟩
      · exact ⟨_, filled, .inl ⟨same, rfl⟩⟩
      · obtain ⟨who, signs⟩ := accepted.resolve_left same
        exact ⟨who, filled, .inr ⟨same, signs⟩⟩
  · intro secret payload s hs t ht
    rw [signature_of_takes hs, signature_of_takes ht]

end Verifier
end ErrandHub
