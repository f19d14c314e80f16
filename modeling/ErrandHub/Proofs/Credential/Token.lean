/-
Which texts are tokens, and what is read off one that was issued.

`Token.Genuine` says what a token of a secret is: the version, claims and a signature with dots between them and none
inside, the claims as bytes in base64 that spell a record (`Claims.Spells`), and the keyed digest of the second part as
it stands.

  * `claims_eq_ok_iff`: the claims of a token are read if and only if it is genuine and not expired;
  * `Genuine.signature_eq`: the secret and the second part of a genuine token leave one third part only;
  * `genuine_issue`: a token that is issued for claims, whatever these are, is genuine and says just these claims.
-/
import ErrandHub.Credential.Token
import ErrandHub.Proofs.Digest.Base64Url
import ErrandHub.Proofs.Digest.Hmac
import ErrandHub.Proofs.Json.Reading
import ErrandHub.Proofs.Text.Blank
import ErrandHub.Proofs.Text.Utf8

namespace ErrandHub

/-! ## Claims as bytes -/

namespace Claims

/-- bytes spell claims: a record with a text as its subject, a word of 64 bits as its expiry and, unless it is missing
or null, a text as its role -/
def Spells (bytes : List UInt8) (c : Claims) : Prop :=
  ∃ tree fields, Json.Tree.ofSymbols? (Utf8.decode bytes) = some tree ∧ tree.fields? fieldNames = some fields ∧
    Json.Tree.required fields "sub" Json.Tree.text? = some c.subject ∧
    Json.Tree.required fields "exp" Json.Tree.integer? = some (Int.ofNat c.expiry.toNat) ∧
    Json.Tree.optional fields "role" Json.Tree.text? = some c.role

theorem claimsOf?_eq_some_iff {bytes : List UInt8} {c : Claims} :
    Token.claimsOf? bytes = some c ↔ Spells bytes c := by
  have expiry (fields : List (String × Json.Tree)) (w : UInt64) :
      Json.Tree.required fields "exp" (fun t => t.integer?.bind Word.ofInt?) = some w ↔
        Json.Tree.required fields "exp" Json.Tree.integer? = some (Int.ofNat w.toNat) := by
    simp only [Json.Tree.required, Option.bind_eq_some_iff, Word.ofInt?_eq_some_iff]
    constructor
    · rintro ⟨t, found, _, read, rfl⟩
      exact ⟨t, found, read⟩
    · rintro ⟨t, found, read⟩
      exact ⟨t, found, _, read, rfl⟩
  rw [Token.claimsOf?, Option.bind_eq_some_iff]
  simp only [ofTree?, Option.bind_eq_bind, Option.bind_eq_some_iff, Option.pure_def, Option.some.injEq, expiry]
  constructor
  · rintro ⟨tree, written, fields, named, _, hsubject, _, hexpiry, _, hrole, rfl⟩
    exact ⟨tree, fields, written, named, hsubject, hexpiry, hrole⟩
  · rintro ⟨tree, fields, written, named, hsubject, hexpiry, hrole⟩
    exact ⟨tree, written, fields, named, _, hsubject, _, hexpiry, _, hrole, rfl⟩

def fields (c : Claims) : List (String × Json.Tree) :=
  [("sub", .string (Json.pieces c.subject)), ("exp", .numeral (Json.natural c.expiry.toNat))]
    ++ (c.role.map fun r => ("role", .string (Json.pieces r))).toList

theorem reads_chars (c : Claims) :
    Json.Reads c.chars (.object (c.fields.map fun m => (Json.pieces m.1, m.2))) := by
  let written : List (String × List Char × Json.Tree) :=
    [("sub", Json.quoted c.subject, .string (Json.pieces c.subject)),
      ("exp", (toString c.expiry.toNat).toList, .numeral (Json.natural c.expiry.toNat))]
      ++ (c.role.map fun r => ("role", Json.quoted r, .string (Json.pieces r))).toList
  have values : ∀ m ∈ written, Json.Reads m.2.1 m.2.2 := by
    intro m hm
    rcases List.mem_append.1 hm with hm | hm
    · simp only [List.mem_cons, List.not_mem_nil, or_false] at hm
      rcases hm with rfl | rfl
      · exact Json.reads_quoted c.subject
      · exact Json.reads_natural c.expiry.toNat
    · simp only [Option.mem_toList, Option.map_eq_some_iff] at hm
      obtain ⟨r, -, rfl⟩ := hm
      exact Json.reads_quoted r
  have read := Json.reads_braces values
  cases hrole : c.role <;> simpa [written, chars, fields, hrole] using read

theorem spells_chars (c : Claims) : Spells (Utf8.encode c.chars) c := by
  have known : c.fields.all fun m => fieldNames.contains m.1 := by
    unfold fields
    cases c.role <;> rfl
  have once : Json.Tree.distinct c.fields := by
    unfold fields
    cases c.role <;> rfl
  have role : Json.Tree.optional c.fields "role" Json.Tree.text? = some c.role := by
    unfold fields
    cases hrole : c.role with
    | none => rfl
    | some r => exact congrArg (Option.map some) (Json.textOf?_pieces r)
  refine ⟨.object (c.fields.map fun m => (Json.pieces m.1, m.2)), c.fields, ?_, ?_, ?_, ?_, role⟩
  · rw [Utf8.decode_encode]
    exact Json.ofSymbols?_of_reads c.reads_chars
  · exact Json.fields?_object (List.all_eq_true.1 known) once
  · exact Json.textOf?_pieces c.subject
  · exact Json.integer?_natural c.expiry.toNat_lt

end Claims

/-! ## The parts of a token -/

namespace Token

theorem cut_of_not_mem {first : List Char} (dotless : '.' ∉ first) (rest : List Char) :
    cut (first ++ '.' :: rest) = (first, some rest) := by
  induction first with
  | nil => rfl
  | cons c first ih =>
    obtain ⟨hc, hfirst⟩ := not_or.1 (mt List.mem_cons.2 dotless)
    rw [List.cons_append, cut, if_neg (Ne.symm hc), ih hfirst]

/-- a text with a dot is cut into what stands before its first dot and what stands after it -/
theorem cut_eq_iff {token first rest : List Char} :
    cut token = (first, some rest) ↔ '.' ∉ first ∧ token = first ++ '.' :: rest := by
  constructor
  · intro h
    induction token generalizing first with
    | nil => cases h
    | cons c token ih =>
      rw [cut] at h
      split at h
      · rename_i dot
        cases h
        exact ⟨List.not_mem_nil, by rw [dot, List.nil_append]⟩
      · rename_i letter
        obtain ⟨rfl, hrest⟩ := Prod.mk.inj h
        obtain ⟨dotless, written⟩ := ih (Prod.ext rfl hrest)
        refine ⟨?_, ?_⟩
        · rw [List.mem_cons, not_or]
          exact ⟨Ne.symm letter, dotless⟩
        · rw [List.cons_append, ← written]
  · rintro ⟨dotless, rfl⟩
    exact cut_of_not_mem dotless rest

/-- a token in its three parts -/
def joined (payload signature : List Char) : String :=
  String.ofList (version ++ '.' :: payload ++ '.' :: signature)

@[simp] theorem toList_joined (payload signature : List Char) :
    (joined payload signature).toList = version ++ '.' :: payload ++ '.' :: signature :=
  String.toList_ofList

theorem joined_inj {p s q t : List Char} (hq : '.' ∉ q) (ht : '.' ∉ t) (h : joined p s = joined q t) :
    p = q ∧ s = t := by
  have texts := congrArg String.toList h
  simp only [toList_joined, List.append_assoc, List.append_cancel_left_eq, List.cons_append, List.cons.injEq,
    true_and] at texts
  have cuts : cut (p ++ '.' :: s) = (q, some t) := by rw [texts, cut_of_not_mem hq]
  by_cases hp : '.' ∈ p
  · -- the first dot of `p` would leave another one behind it
    obtain ⟨a, b, rfl, ha⟩ := List.eq_append_cons_of_mem hp
    rw [List.append_assoc, List.cons_append, cut_of_not_mem ha] at cuts
    obtain rfl : b ++ '.' :: s = t := by simpa using congrArg Prod.snd cuts
    exact absurd (by simp) ht
  · rw [cut_of_not_mem hp] at cuts
    simpa using cuts

theorem parts?_eq_some_iff {token : String} {payload signature : List Char} :
    parts? token.toList = some (payload, signature) ↔
      token = joined payload signature ∧ '.' ∉ payload ∧ '.' ∉ signature := by
  constructor
  · intro h
    unfold parts? at h
    split at h
    · rename_i first rest hfirst
      split at h
      · rename_i second third hsecond
        obtain ⟨hform, h⟩ := Option.ite_none_right_eq_some.1 h
        obtain ⟨rfl, rfl⟩ := Prod.mk.inj (Option.some.inj h)
        obtain ⟨hversion, hsignature⟩ := Bool.and_eq_true_iff.1 hform
        obtain ⟨-, htoken⟩ := cut_eq_iff.1 hfirst
        obtain ⟨hpayload, hrest⟩ := cut_eq_iff.1 hsecond
        refine ⟨?_, hpayload, by simpa using hsignature⟩
        apply String.toList_injective
        rw [htoken, hrest, of_decide_eq_true hversion, toList_joined, List.append_assoc, List.cons_append]
      · cases h
    · cases h
  · rintro ⟨rfl, hpayload, hsignature⟩
    have first : cut (joined payload signature).toList = (version, some (payload ++ '.' :: signature)) := by
      rw [toList_joined, List.append_assoc]
      exact cut_of_not_mem (by decide) _
    rw [parts?, first]
    simp only [cut_of_not_mem hpayload]
    simp [hsignature]

/-! ## Genuine tokens -/

/-- a token for claims under a secret, with its second and third part -/
structure Genuine (secret token : String) (payload signature : List Char) (c : Claims) : Prop where
  /-- it has three parts, of which the first is the version -/
  form : token = joined payload signature
  dotless : '.' ∉ payload ∧ '.' ∉ signature
  /-- the second part is the claims, as bytes in base64 -/
  spelled : ∃ bytes, payload = Base64Url.encode bytes ∧ Claims.Spells bytes c
  /-- the third part is the keyed digest of the second, in base64 -/
  signed : signature = Base64Url.encode (Hmac.sign (Utf8.bytes secret) (Utf8.encode payload))

theorem dotless_encode (bytes : List UInt8) : '.' ∉ Base64Url.encode bytes := by
  intro dot
  obtain ⟨n, small, hn⟩ := Base64Url.digit_of_mem_encode dot
  have none : ∀ n < 64, '.' ≠ Base64Url.digit n := by decide
  exact none n small hn

/-- the third part of a genuine token follows from the second -/
theorem Genuine.signature_eq {secret : String} {p s payload signature : List Char} {c : Claims}
    (h : Genuine secret (joined p s) payload signature c) :
    s = Base64Url.encode (Hmac.sign (Utf8.bytes secret) (Utf8.encode p)) := by
  obtain ⟨rfl, rfl⟩ := joined_inj h.dotless.1 h.dotless.2 h.form
  exact h.signed

theorem genuine_issue (c : Claims) (secret : String) : ∃ payload signature,
    Genuine secret (issue c secret) payload signature c := by
  let payload := Base64Url.encode (Utf8.encode c.chars)
  refine ⟨payload, Base64Url.encode (sign secret payload), rfl, ⟨?_, ?_⟩, ?_, rfl⟩
  · exact dotless_encode _
  · exact dotless_encode _
  · exact ⟨_, rfl, c.spells_chars⟩

theorem isBlankChar_of_mem_encode {bytes : List UInt8} {d : Char} (h : d ∈ Base64Url.encode bytes) :
    Text.isBlankChar d = false := by
  obtain ⟨n, small, rfl⟩ := Base64Url.digit_of_mem_encode h
  have visible : ∀ n < 64, Text.isBlankChar (Base64Url.digit n) = false := by decide
  exact visible n small

theorem trimmed?_issue (c : Claims) (secret : String) :
    Text.trimmed? (issue c secret) = some (issue c secret) := by
  have visible : ∀ d ∈ (issue c secret).toList, Text.isBlankChar d = false := by
    intro d hd
    rw [issue, String.toList_ofList, List.mem_append, List.mem_append, List.mem_cons, List.mem_cons] at hd
    rcases hd with (hd | rfl | hd) | rfl | hd
    · rw [version, List.mem_cons, List.mem_singleton] at hd
      rcases hd with rfl | rfl
      · rfl
      · rfl
    · rfl
    · exact isBlankChar_of_mem_encode hd
    · rfl
    · exact isBlankChar_of_mem_encode hd
  have unchanged := Text.trim_eq_self visible
  refine Text.trimmed?_eq_some_iff.2 ⟨?_, unchanged⟩
  intro empty
  have none := congrArg String.toList (unchanged.symm.trans empty)
  rw [issue, String.toList_ofList] at none
  cases none

theorem claims_of_genuine {secret token : String} {payload signature : List Char} {c : Claims}
    (h : Genuine secret token payload signature c) (now : Nat) :
    claims now secret token = if c.expiry.toNat ≤ now then .error .expired else .ok c := by
  obtain ⟨hform, hdotless, ⟨bytes, hpayload, hspells⟩, hsigned⟩ := h
  have parts : parts? token.toList = some (payload, signature) := parts?_eq_some_iff.2 ⟨hform, hdotless⟩
  have given : Base64Url.decode signature = some (sign secret payload) := Base64Url.decode_eq_some_iff.2 hsigned
  have same : Hmac.equal (sign secret payload) (sign secret payload) = true := Hmac.equal_iff.2 rfl
  unfold claims
  simp only [parts, given, same, Base64Url.decode_eq_some_iff.2 hpayload, Claims.claimsOf?_eq_some_iff.2 hspells,
    Bool.not_true, Bool.false_eq_true, ↓reduceIte]

/-- claims are read off no token but a genuine one -/
theorem genuine_of_claims {now : Nat} {secret token : String} {c : Claims} (h : claims now secret token = .ok c) :
    ∃ payload signature, Genuine secret token payload signature c := by
  unfold claims at h
  split at h
  · cases h
  rename_i payload signature hparts
  split at h
  · cases h
  rename_i bytes hbytes
  split at h
  · cases h
  rename_i given hgiven
  split at h
  · cases h
  rename_i hsigned
  split at h
  · cases h
  rename_i c' hclaims
  split at h
  · cases h
  cases h
  obtain ⟨hform, hdotless⟩ := parts?_eq_some_iff.1 hparts
  have hsign : sign secret payload = given := Hmac.equal_iff.1 (by simpa using hsigned)
  refine ⟨payload, signature, hform, hdotless, ⟨bytes, ?_, ?_⟩, ?_⟩
  · exact Base64Url.decode_eq_some_iff.1 hbytes
  · exact Claims.claimsOf?_eq_some_iff.1 hclaims
  · rw [Base64Url.decode_eq_some_iff.1 hgiven, ← hsign, sign]

/-- the claims of a token are read if it is genuine and not expired, and only then -/
theorem claims_eq_ok_iff {now : Nat} {secret token : String} {c : Claims} :
    claims now secret token = .ok c ↔
      ∃ payload signature, Genuine secret token payload signature c ∧ now < c.expiry.toNat := by
  constructor
  · intro h
    obtain ⟨payload, signature, genuine⟩ := genuine_of_claims h
    refine ⟨payload, signature, genuine, ?_⟩
    rw [claims_of_genuine genuine] at h
    split at h
    · cases h
    · omega
  · rintro ⟨payload, signature, genuine, early⟩
    rw [claims_of_genuine genuine, if_neg (Nat.not_le.2 early)]

end Token
end ErrandHub
