/-
The two readers of an authorization header.

A request to open a connection and a request to publish may both bring a credential in their first authorization header,
after the word `Bearer`. Both readers take header values for text alike and check the credential alike; they differ in the
spelling of the word. One that opens a connection may write it in lower case, one that publishes may not.

- `Presents`: a header names a credential of somebody, under a spelling of the word.
- `Handshake.isFrom_iff_presents`, `Admin.Request.isFrom_iff_presents`: the spellings that each of the readers knows.
- `bearers_agree_but_for_lower_case`: the readers agree on every header, unless the word is in lower case.
- `lower_case_bearer_publishes_nothing`: in lower case, a service token opens a connection and publishes nothing.
-/
import Mathlib.Tactic
import ErrandHub.Proofs.Credential.Handshake
import ErrandHub.Proofs.Hub.Requests

namespace ErrandHub

/-! ## What a header says -/

/-- the first header is a word and a credential, whatever that may be -/
def Spelled (word : String) (authorization : List (List UInt8)) (given : String) : Prop :=
  authorization.head? = some (Utf8.bytes (word ++ given))

/-- the first header is, in characters that may be read, a word and a credential of somebody -/
def Presents (v : Verifier) (now : Nat) (word : String) (authorization : List (List UInt8)) (who : Verified) : Prop :=
  ∃ given, Spelled word authorization given ∧ IsHeaderText given ∧ v.verify now given = .ok who

variable {v : Verifier} {now : Nat} {authorization : List (List UInt8)} {who : Verified}

theorem Spelled.chars_eq {word word' given given' : String} (h : Spelled word authorization given)
    (h' : Spelled word' authorization given') : word.toList ++ given.toList = word'.toList ++ given'.toList := by
  have htexts := Utf8.bytes_injective (Option.some.inj (h.symm.trans h'))
  rw [← String.toList_append, ← String.toList_append, htexts]

theorem Spelled.unique {word given given' : String} (h : Spelled word authorization given)
    (h' : Spelled word authorization given') : given = given' :=
  String.toList_injective (List.append_cancel_left (h.chars_eq h'))

theorem Spelled.not_lower {given given' : String} (h : Spelled "Bearer " authorization given) :
    ¬Spelled "bearer " authorization given' := by
  intro h'
  have hfirst : 'B' = 'b' := Option.some.inj (congrArg List.head? (h.chars_eq h'))
  exact absurd hfirst (by decide)

namespace Handshake

/-- a request is let in as somebody, unless it is refused for its room -/
def IsFrom (h : Handshake) (v : Verifier) (now : Nat) (who : Verified) : Prop :=
  admission ⟨h.token, none⟩ v now = .ok ⟨who, none⟩

theorem isFrom_iff {h : Handshake} : h.IsFrom v now who ↔ ∃ token, h.token = some token ∧ v.verify now token = .ok who := by
  obtain ⟨token, room⟩ := h
  cases token with
  | none => exact ⟨nofun, nofun⟩
  | some token =>
    cases hverified : v.verify now token with
    | error e => simp [IsFrom, admission, hverified]
    | ok w => simp [IsFrom, admission, hverified]

theorem isFrom_of_admission {h : Handshake} {room : Option RoomId} (hadmitted : admission h v now = .ok ⟨who, room⟩) :
    h.IsFrom v now who := by
  obtain ⟨token, raw⟩ := h
  cases token with
  | none => cases hadmitted
  | some token =>
    cases hverified : v.verify now token with
    | error e => cases hadmitted.symm.trans (Bad.admission (.refused hverified) raw)
    | ok w =>
      refine isFrom_iff.2 ⟨token, rfl, ?_⟩
      obtain ⟨e, hroom⟩ | ⟨place, hin⟩ := admission_of_verified hverified raw
      · cases hadmitted.symm.trans hroom
      · cases hadmitted.symm.trans hin
        exact hverified

theorem unauthorized_iff {h : Handshake} :
    (∃ detail, h.admission v now = .error (.unauthorized detail)) ↔ ∀ who, ¬h.IsFrom v now who := by
  obtain ⟨token, room⟩ := h
  simp only [admission_eq_unauthorized_iff, isFrom_iff]
  constructor
  · rintro ⟨detail, e, hbad, -⟩ who ⟨given, hgiven, hverified⟩
    obtain rfl : token = some given := hgiven
    cases hbad with
    | refused hrefused =>
      rw [hverified] at hrefused
      cases hrefused
  · intro hnobody
    cases token with
    | none => exact ⟨_, _, .missing, rfl⟩
    | some given =>
      cases hverified : v.verify now given with
      | error e => exact ⟨_, e, .refused hverified, rfl⟩
      | ok who => exact absurd ⟨given, rfl, hverified⟩ (hnobody who)

theorem not_isBlank_of_verify {given : String} (h : v.verify now given = .ok who) : Text.isBlank given = false := by
  by_contra hblank
  rw [Bool.not_eq_false] at hblank
  simp [Verifier.verify, Text.trimmed?, hblank] at h

/-- a blank credential, which is taken for none, is not verified in any case -/
theorem verified_filled_iff {given : Option String} :
    (∃ token, filled given = some token ∧ v.verify now token = .ok who) ↔
      ∃ token, given = some token ∧ v.verify now token = .ok who := by
  constructor
  · rintro ⟨token, htoken, hverified⟩
    exact ⟨token, (Option.filter_eq_some_iff.1 htoken).1, hverified⟩
  · rintro ⟨token, rfl, hverified⟩
    exact ⟨token, Option.filter_eq_some_iff.2 ⟨rfl, by rw [not_isBlank_of_verify hverified]; rfl⟩, hverified⟩

/-- the words that a credential may follow are two -/
theorem findSome?_schemes_eq_some_iff (text rest : List Char) :
    (schemes.findSome? fun scheme => afterWord? scheme text) = some rest ↔
      text = "Bearer ".toList ++ rest ∨ text = "bearer ".toList ++ rest := by
  have hschemes : (schemes.findSome? fun scheme => afterWord? scheme text) =
      (afterWord? "Bearer ".toList text).or (afterWord? "bearer ".toList text) := by
    rw [schemes, List.findSome?_cons, List.findSome?_cons, List.findSome?_nil]
    cases afterWord? "Bearer ".toList text <;> cases afterWord? "bearer ".toList text <;> rfl
  rw [hschemes, Option.or_eq_some_iff, afterWord?_eq_some_iff, afterWord?_eq_some_iff]
  constructor
  · rintro (htext | ⟨-, htext⟩)
    · exact .inl htext
    · exact .inr htext
  · rintro (htext | rfl)
    · exact .inl htext
    · -- what starts with the second word does not start with the first
      exact .inr ⟨rfl, rfl⟩

/-- the credential of a header is what follows one of the words, without the blanks around it -/
theorem bearer?_eq_some_iff (value : List UInt8) (token : String) :
    bearer? value = some token ↔ ∃ given,
      (value = Utf8.bytes ("Bearer " ++ given) ∨ value = Utf8.bytes ("bearer " ++ given)) ∧ IsHeaderText given ∧
        token = Text.trim given := by
  have hupper := headerText?_word_iff (show IsHeaderText "Bearer " by decide) value
  have hlower := headerText?_word_iff (show IsHeaderText "bearer " by decide) value
  simp only [bearer?, Option.bind_eq_some_iff, Option.map_eq_some_iff, findSome?_schemes_eq_some_iff]
  constructor
  · rintro ⟨text, htext, rest, hword, rfl⟩
    obtain ⟨given, rfl⟩ : ∃ given : String, given.toList = rest := ⟨String.ofList rest, String.toList_ofList⟩
    refine ⟨given, ?_⟩
    obtain rfl | rfl := hword
    · obtain ⟨hvalue, hgiven⟩ := (hupper given).1 htext
      exact ⟨.inl hvalue, hgiven, rfl⟩
    · obtain ⟨hvalue, hgiven⟩ := (hlower given).1 htext
      exact ⟨.inr hvalue, hgiven, rfl⟩
  · rintro ⟨given, hvalue | hvalue, hgiven, rfl⟩
    · exact ⟨_, (hupper given).2 ⟨hvalue, hgiven⟩, _, .inl rfl, rfl⟩
    · exact ⟨_, (hlower given).2 ⟨hvalue, hgiven⟩, _, .inr rfl, rfl⟩

variable {pairs : List (String × String)}

/-- a request without a token pair is from whom its first header presents a credential of, under either word -/
theorem isFrom_iff_presents (hplain : ∀ p ∈ pairs, p.1 ≠ "token") :
    (ofPairs pairs authorization).IsFrom v now who ↔
      Presents v now "Bearer " authorization who ∨ Presents v now "bearer " authorization who := by
  have hlookup : pairs.lookup "token" = none := first_iff_lookup.1 (.absent hplain)
  have htoken : (ofPairs pairs authorization).token = filled (authorization.head?.bind bearer?) := by
    rw [ofPairs, hlookup]
    rfl
  rw [isFrom_iff, htoken, verified_filled_iff]
  simp only [Option.bind_eq_some_iff, bearer?_eq_some_iff]
  constructor
  · rintro ⟨token, ⟨value, hhead, given, hvalue, hgiven, rfl⟩, hverified⟩
    rw [v.verify_trim] at hverified
    obtain rfl | rfl := hvalue
    · exact .inl ⟨given, hhead, hgiven, hverified⟩
    · exact .inr ⟨given, hhead, hgiven, hverified⟩
  · rintro (⟨given, hhead, hgiven, hverified⟩ | ⟨given, hhead, hgiven, hverified⟩)
    · exact ⟨_, ⟨_, hhead, given, .inl rfl, hgiven, rfl⟩, (v.verify_trim now given).trans hverified⟩
    · exact ⟨_, ⟨_, hhead, given, .inr rfl, hgiven, rfl⟩, (v.verify_trim now given).trans hverified⟩

end Handshake

namespace Admin

variable {σ : Type}

/-! ## Publishing -/

/-- a request to publish is from somebody; it may still be refused for their role -/
def Request.IsFrom (a : Setup) (r : Request) (who : Verified) : Prop :=
  a.verifier.verify a.now (credential r.authorization) = .ok who

/-- a request to publish is from whom its first header presents a credential of, under the word as it is usually written -/
theorem Request.isFrom_iff_presents {a : Setup} {r : Request} :
    r.IsFrom a who ↔ Presents a.verifier a.now "Bearer " r.authorization who :=
  credential_verified_iff a r.authorization who

section Publish

variable {a : Setup} {h : Hub σ} {r : Request}

theorem publish_of_nobody {e : AuthError} (hverified : a.verifier.verify a.now (credential r.authorization) = .error e) :
    publish a h r = (h, ⟨401, "unauthorized", false⟩) := by
  simp only [publish, hverified]

theorem publish_of_other (hfrom : r.IsFrom a who) (hrole : who.role ≠ .system) :
    publish a h r = (h, ⟨401, "service token required", false⟩) := by
  unfold Request.IsFrom at hfrom
  simp only [publish, hfrom, if_pos hrole]

/-- the system is not turned away, though its message may be -/
theorem publish_of_system (hfrom : r.IsFrom a who) (hrole : who.role = .system) : (publish a h r).2.status ≠ 401 := by
  unfold publish
  split
  · rename_i e hrefused
    cases hfrom.symm.trans hrefused
  · rename_i who' hwho
    cases hfrom.symm.trans hwho
    rw [if_neg (not_not.2 hrole)]
    split
    · exact nofun
    · split
      · exact nofun
      · exact nofun
      · split <;> exact nofun

end Publish

/-- what a request to publish is answered says whether it is from anyone, and from anyone of the system role -/
theorem answer_of_publish (a : Setup) (ready : Bool) (h : Hub σ) {r : Request} (hmethod : r.method = "POST")
    (hpath : r.path = "/publish") :
    ((answer a ready h r).2 = ⟨401, "unauthorized", false⟩ ↔ ∀ who, ¬r.IsFrom a who) ∧
    ((answer a ready h r).2 = ⟨401, "service token required", false⟩ ↔ ∃ who, r.IsFrom a who ∧ who.role ≠ .system) := by
  rw [answer_publish a ready h hmethod hpath]
  cases hverified : a.verifier.verify a.now (credential r.authorization) with
  | error e =>
    have hnobody : ∀ who, ¬r.IsFrom a who := fun who hfrom => by
      rw [Request.IsFrom, hverified] at hfrom
      cases hfrom
    rw [publish_of_nobody hverified]
    exact ⟨iff_of_true rfl hnobody, iff_of_false (by simp) fun ⟨who, hfrom, _⟩ => hnobody who hfrom⟩
  | ok who =>
    have hwho : ∀ w, r.IsFrom a w ↔ w = who := fun w => by
      rw [Request.IsFrom, hverified, Except.ok.injEq, eq_comm]
    have hsomebody : ¬∀ w, ¬r.IsFrom a w := fun hnobody => hnobody who hverified
    by_cases hrole : who.role = .system
    · have hstatus := publish_of_system (h := h) hverified hrole
      refine ⟨iff_of_false (fun heq => hstatus (by rw [heq])) hsomebody, iff_of_false (fun heq => hstatus (by rw [heq])) ?_⟩
      rintro ⟨w, hfrom, hother⟩
      obtain rfl := (hwho w).1 hfrom
      exact hother hrole
    · rw [publish_of_other hverified hrole]
      exact ⟨iff_of_false (by simp) hsomebody, iff_of_true rfl ⟨who, hverified, hrole⟩⟩

/-- **One reader, but for the spelling.** A request to open a connection that has no token pair and a request to publish
with the same headers are from the same people, unless the first header starts with the word `bearer` in lower case. Then
the request to publish is from nobody, and the other one is from whom the credential after the word is of, if it can be
read. One that is from nobody is refused as unauthorized, by either; a connection is opened only for whom the request is
from; and one that publishes must also be of the system role. -/
theorem bearers_agree_but_for_lower_case (a : Setup) (ready : Bool) (h : Hub σ) (r : Request)
    (hmethod : r.method = "POST") (hpath : r.path = "/publish") (pairs : List (String × String))
    (hplain : ∀ p ∈ pairs, p.1 ≠ "token") :
    let opening := Handshake.ofPairs pairs r.authorization
    ((∀ given, ¬Spelled "bearer " r.authorization given) →
      ∀ who, opening.IsFrom a.verifier a.now who ↔ r.IsFrom a who) ∧
    (∀ given, Spelled "bearer " r.authorization given →
      (∀ who, ¬r.IsFrom a who) ∧
      ∀ who, opening.IsFrom a.verifier a.now who ↔ IsHeaderText given ∧ a.verifier.verify a.now given = .ok who) ∧
    ((∃ detail, opening.admission a.verifier a.now = .error (.unauthorized detail)) ↔
      ∀ who, ¬opening.IsFrom a.verifier a.now who) ∧
    (∀ who room, opening.admission a.verifier a.now = .ok ⟨who, room⟩ → opening.IsFrom a.verifier a.now who) ∧
    ((answer a ready h r).2 = ⟨401, "unauthorized", false⟩ ↔ ∀ who, ¬r.IsFrom a who) ∧
    ((answer a ready h r).2 = ⟨401, "service token required", false⟩ ↔ ∃ who, r.IsFrom a who ∧ who.role ≠ .system) := by
  intro opening
  have hopening : ∀ who, opening.IsFrom a.verifier a.now who ↔
      Presents a.verifier a.now "Bearer " r.authorization who ∨ Presents a.verifier a.now "bearer " r.authorization who :=
    fun who => Handshake.isFrom_iff_presents hplain
  obtain ⟨hnobody, hother⟩ := answer_of_publish a ready h hmethod hpath
  refine ⟨fun hnot who => ?_, fun given hspelled => ⟨?_, fun who => ?_⟩, Handshake.unauthorized_iff,
    fun who room => Handshake.isFrom_of_admission, hnobody, hother⟩
  · rw [hopening, Request.isFrom_iff_presents]
    refine or_iff_left ?_
    rintro ⟨given, hspelled, -⟩
    exact hnot given hspelled
  · intro who hfrom
    obtain ⟨given', hspelled', -⟩ := Request.isFrom_iff_presents.1 hfrom
    exact hspelled'.not_lower hspelled
  · rw [hopening]
    constructor
    · rintro (⟨given', hspelled', -⟩ | ⟨given', hspelled', hreads⟩)
      · exact absurd hspelled hspelled'.not_lower
      · rwa [hspelled.unique hspelled']
    · exact fun hreads => .inr ⟨given, hspelled, hreads⟩

/-- the service, which asks under either word: `Bearer`, with blanks around the token and a second header, and `bearer` -/
theorem bearers_agree_but_for_lower_case_for_service :
    let a : Setup := ⟨{ service := some ⟨"key"⟩ }, 1000, 0⟩
    let h : Hub Unit := Hub.start () 0 true
    let pairs := [("room", "7")]
    let usual : Request := ⟨"POST", "/publish", [Utf8.bytes ("Bearer " ++ " key "), Utf8.bytes "bearer k"], []⟩
    let lower : Request := ⟨"POST", "/publish", [Utf8.bytes ("bearer " ++ "key")], []⟩
    let who : Verified := ⟨.system, .system⟩
    ((Handshake.ofPairs pairs usual.authorization).IsFrom a.verifier a.now who ∧ usual.IsFrom a who) ∧
      (Handshake.ofPairs pairs lower.authorization).IsFrom a.verifier a.now who ∧
      (answer a true h lower).2 = ⟨401, "unauthorized", false⟩ := by
  intro a h pairs usual lower who
  have husual : Spelled "Bearer " usual.authorization " key " := rfl
  have hlower : Spelled "bearer " lower.authorization "key" := rfl
  have hplain : ∀ p ∈ pairs, p.1 ≠ "token" := by decide
  obtain ⟨hagree, -⟩ := bearers_agree_but_for_lower_case a true h usual rfl rfl pairs hplain
  obtain ⟨-, hdiffer, -, -, hanswer, -⟩ := bearers_agree_but_for_lower_case a true h lower rfl rfl pairs hplain
  have hfrom : usual.IsFrom a who := Request.isFrom_iff_presents.2 ⟨_, husual, by decide, by decide +kernel⟩
  obtain ⟨hnobody, hopening⟩ := hdiffer _ hlower
  exact ⟨⟨(hagree (fun _ => husual.not_lower) who).2 hfrom, hfrom⟩, (hopening who).2 ⟨by decide, by decide +kernel⟩,
    hanswer.2 hnobody⟩

/-- the service token after `bearer`: the request to open a connection is let in, the one to publish is from nobody -/
theorem lower_case_bearer_publishes_nothing :
    let a : Setup := ⟨{ service := some ⟨"svc"⟩ }, 1000, 0⟩
    let r : Request := ⟨"POST", "/publish", [Utf8.bytes "bearer svc"], []⟩
    let opening := Handshake.ofPairs [] r.authorization
    let who : Verified := ⟨.system, .system⟩
    opening.admission a.verifier a.now = .ok ⟨who, none⟩ ∧
      (answer a true (Hub.start () 0 true) r).2 = ⟨401, "unauthorized", false⟩ ∧
      ¬(opening.IsFrom a.verifier a.now who ↔ r.IsFrom a who) := by
  intro a r opening who
  have hadmitted : opening.admission a.verifier a.now = .ok ⟨who, none⟩ := by decide +kernel
  have hrefused : (answer a true (Hub.start () 0 true) r).2 = ⟨401, "unauthorized", false⟩ := by decide +kernel
  refine ⟨hadmitted, hrefused, fun hsame => ?_⟩
  have hfrom := hsame.1 (Handshake.isFrom_of_admission hadmitted)
  obtain ⟨hnobody, -⟩ := answer_of_publish a true (Hub.start () 0 true) (r := r) rfl rfl
  exact hnobody.1 hrefused who hfrom

end Admin
end ErrandHub
