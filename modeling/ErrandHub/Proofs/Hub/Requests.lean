/-
What becomes of a request to the admin surface.

One request can change a hub: to publish a message under a credential of the system role (`Request.Asks`). Its header must
be text, that is visible characters, spaces and tabs of ASCII; a credential with any other character is not read.

- `headerText?_eq_some_iff`, `headerText?_word_iff`: which header values are text, and which text they are.
- `credential_verified_iff`: who is let in on account of the headers of a request.
- `answer_of_asks`, `answer_of_not_asks`: a request that asks to publish is accepted, and any other changes nothing.
- `requests_accepted_exactly`: which requests are accepted, what an accepted one does, and that any other does nothing.
- `system_credential_beyond_ascii_refused`: a service token that is not ASCII lets nobody in.
-/
import Mathlib.Tactic
import ErrandHub.Proofs.Credential.Verifier
import ErrandHub.Proofs.Envelope.Inbound
import ErrandHub.Proofs.Hub.Publishing

namespace ErrandHub

/-! ## Header values -/

/-- a character that a header value may show as text: a visible one of ASCII, a space or a tab -/
def IsHeaderChar (c : Char) : Prop := c = '\t' ∨ 32 ≤ c.toNat ∧ c.toNat < 127

instance (c : Char) : Decidable (IsHeaderChar c) := inferInstanceAs (Decidable (_ ∨ _ ∧ _))

/-- a text that a header value may show -/
def IsHeaderText (s : String) : Prop := ∀ c ∈ s.toList, IsHeaderChar c

instance (s : String) : Decidable (IsHeaderText s) := List.decidableBAll IsHeaderChar s.toList

theorem toNat_of_isHeaderChar {c : Char} : IsHeaderChar c ↔ c.toNat = 9 ∨ 32 ≤ c.toNat ∧ c.toNat < 127 := by
  have htab : c = '\t' ↔ c.toNat = 9 := Char.toNat_inj.symm
  rw [IsHeaderChar, htab]

/-- a byte is shown as a character exactly when the character is written as that byte -/
theorem headerChar_iff (b : UInt8) (c : Char) :
    (if b = 9 || (32 ≤ b && b < 127) then some (Char.ofNat b.toNat) else none) = some c ↔
      IsHeaderChar c ∧ Utf8.encodeChar c = [b] := by
  have hshown : (b = 9 || (32 ≤ b && b < 127)) = true ↔ b.toNat = 9 ∨ 32 ≤ b.toNat ∧ b.toNat < 127 := by
    simp [UInt8.le_iff_toNat_le, UInt8.lt_iff_toNat_lt, ← UInt8.toNat_inj]
  rw [toNat_of_isHeaderChar, Option.ite_none_right_eq_some, hshown, Option.some_inj]
  constructor
  · rintro ⟨hb, rfl⟩
    rw [Utf8.toNat_ofNat (by omega)]
    refine ⟨hb, ?_⟩
    simp only [Utf8.encodeChar, Utf8.toNat_ofNat (show b.toNat < 0xD800 ∨ 0xDFFF < b.toNat ∧ b.toNat < 0x110000 by omega)]
    rw [if_pos (by omega), UInt8.ofNat_toNat]
  · rintro ⟨hc, hencoded⟩
    have hsmall : c.toNat < 0x80 := by omega
    simp only [Utf8.encodeChar, if_pos hsmall] at hencoded
    have hb : c.toNat = b.toNat := by
      rw [← List.singleton_injective hencoded]
      exact (UInt8.toNat_ofNat_of_lt (show c.toNat < 256 by omega)).symm
    rw [← hb, Char.ofNat_toNat]
    exact ⟨hc, rfl⟩

theorem IsHeaderChar.encodeChar {c : Char} (h : IsHeaderChar c) : Utf8.encodeChar c = [UInt8.ofNat c.toNat] := by
  have hsmall : c.toNat < 0x80 := by
    have := toNat_of_isHeaderChar.1 h
    omega
  simp only [Utf8.encodeChar, if_pos hsmall]

theorem headerText?_cons_eq_some_iff (b : UInt8) (value : List UInt8) (text : List Char) :
    headerText? (b :: value) = some text ↔
      ∃ c rest, (IsHeaderChar c ∧ Utf8.encodeChar c = [b]) ∧ headerText? value = some rest ∧ text = c :: rest := by
  simp only [headerText?, List.mapM_cons, Option.bind_eq_bind, Option.bind_eq_some_iff, headerChar_iff, Option.pure_def,
    Option.some_inj, eq_comm (a := text)]
  constructor
  · rintro ⟨c, hc, rest, hrest, htext⟩
    exact ⟨c, rest, hc, hrest, htext⟩
  · rintro ⟨c, rest, hc, hrest, htext⟩
    exact ⟨c, hc, rest, hrest, htext⟩

/-- a header value is text when it is written in characters that such values may show -/
theorem headerText?_eq_some_iff (value : List UInt8) (text : List Char) :
    headerText? value = some text ↔ value = Utf8.encode text ∧ ∀ c ∈ text, IsHeaderChar c := by
  induction value generalizing text with
  | nil =>
    constructor
    · intro h
      obtain rfl : [] = text := Option.some_inj.1 h
      exact ⟨rfl, fun c hc => by cases hc⟩
    · rintro ⟨hvalue, hshown⟩
      cases text with
      | nil => rfl
      | cons c rest =>
        -- a header character is one byte, so a text that has one is not without bytes
        rw [Utf8.encode_cons, (hshown c List.mem_cons_self).encodeChar] at hvalue
        cases hvalue
  | cons b value ih =>
    rw [headerText?_cons_eq_some_iff]
    simp only [ih]
    constructor
    · rintro ⟨c, rest, ⟨hc, hb⟩, ⟨rfl, hrest⟩, rfl⟩
      refine ⟨?_, List.forall_mem_cons.2 ⟨hc, hrest⟩⟩
      rw [Utf8.encode_cons, hb]
      rfl
    · rintro ⟨hvalue, hshown⟩
      cases text with
      | nil => cases hvalue
      | cons c rest =>
        obtain ⟨hc, hrest⟩ := List.forall_mem_cons.1 hshown
        rw [Utf8.encode_cons, hc.encodeChar] at hvalue
        obtain ⟨hb, hvalue⟩ := List.cons.inj hvalue
        exact ⟨c, rest, ⟨hc, hb ▸ hc.encodeChar⟩, ⟨hvalue, hrest⟩, rfl⟩

theorem headerText?_word_iff {word : String} (hword : IsHeaderText word) (value : List UInt8) (given : String) :
    headerText? value = some (word.toList ++ given.toList) ↔ value = Utf8.bytes (word ++ given) ∧ IsHeaderText given := by
  rw [headerText?_eq_some_iff, Utf8.bytes, String.toList_append]
  refine and_congr_right fun _ => ⟨fun hshown => ?_, fun hgiven => ?_⟩
  · exact (List.forall_mem_append.1 hshown).2
  · exact List.forall_mem_append.2 ⟨hword, hgiven⟩

theorem afterWord?_eq_some_iff (word text rest : List Char) : afterWord? word text = some rest ↔ text = word ++ rest := by
  unfold afterWord?
  constructor
  · intro h
    split_ifs at h with htake
    cases h
    conv_lhs => rw [← List.take_append_drop word.length text, htake]
  · rintro rfl
    simp

theorem Verifier.verify_trim (v : Verifier) (now : Nat) (credential : String) :
    v.verify now (Text.trim credential) = v.verify now credential := by
  unfold verify
  rw [Text.trimmed?_trim]

namespace Admin

variable {σ : Type}

/-! ## Credentials -/

/-- **Whose request it is.** A request is from whom its first authorization header names a credential of, after the word
`Bearer`, if the header is text. -/
theorem credential_verified_iff (a : Setup) (authorization : List (List UInt8)) (who : Verified) :
    a.verifier.verify a.now (credential authorization) = .ok who ↔
      ∃ given : String, authorization.head? = some (Utf8.bytes ("Bearer " ++ given)) ∧ IsHeaderText given ∧
        a.verifier.verify a.now given = .ok who := by
  -- the first header alone counts, and only as a text that starts with the scheme
  have hheader : ∀ given : String, authorization.head? = some (Utf8.bytes ("Bearer " ++ given)) ∧ IsHeaderText given ↔
      (authorization.head?.bind headerText?).bind (afterWord? "Bearer ".toList) = some given.toList := by
    intro given
    have hword := fun value => headerText?_word_iff (show IsHeaderText "Bearer " by decide) value given
    simp only [Option.bind_eq_some_iff, afterWord?_eq_some_iff]
    constructor
    · rintro ⟨hhead, htext⟩
      exact ⟨_, ⟨_, hhead, (hword _).2 ⟨rfl, htext⟩⟩, rfl⟩
    · rintro ⟨text, ⟨value, hhead, htext⟩, rfl⟩
      obtain ⟨rfl, hgiven⟩ := (hword value).1 htext
      exact ⟨hhead, hgiven⟩
  unfold credential
  constructor
  · intro hverified
    cases hrest : (authorization.head?.bind headerText?).bind (afterWord? "Bearer ".toList) with
    | none =>
      rw [hrest] at hverified
      cases hverified
    | some rest =>
      rw [hrest] at hverified
      obtain ⟨given, rfl⟩ : ∃ given : String, given.toList = rest := ⟨String.ofList rest, String.toList_ofList⟩
      obtain ⟨hhead, htext⟩ := (hheader given).2 hrest
      exact ⟨given, hhead, htext, (a.verifier.verify_trim a.now given).symm.trans hverified⟩
  · rintro ⟨given, hhead, htext, hverified⟩
    rw [(hheader given).1 ⟨hhead, htext⟩]
    exact (a.verifier.verify_trim a.now given).trans hverified

/-! ## Requests to publish -/

/-- a request asks, under this credential, to publish this message into this room -/
structure Request.Asks (a : Setup) (r : Request) (given : String) (who : Verified) (e : Inbound) (q : RoomId)
    (message : String) : Prop where
  method : r.method = "POST"
  path : r.path = "/publish"
  /-- the first authorization header is the word `Bearer`, a space and the credential -/
  header : r.authorization.head? = some (Utf8.bytes ("Bearer " ++ given))
  /-- the credential is of the system role -/
  verified : a.verifier.verify a.now given = .ok who
  system : who.role = .system
  /-- the body is a text of at most so many bytes that says an envelope -/
  body : ∃ text, r.body = Utf8.bytes text ∧ r.body.length ≤ a.maxBodyBytes ∧
    Inbound.decode a.maxBodyBytes text = .ok (.envelope e)
  /-- the envelope is a message with a room and a text that is not blank -/
  publishable : e.Publishable q message

theorem answer_publish (a : Setup) (ready : Bool) (h : Hub σ) {r : Request} (hmethod : r.method = "POST")
    (hpath : r.path = "/publish") : answer a ready h r = publish a h r := by
  simp only [answer, hmethod, hpath]

/-- a request that asks to publish a message, in a header that is text, has it sent and says what came of that -/
theorem answer_of_asks (a : Setup) (ready : Bool) (h : Hub σ) {r : Request} {given : String} {who : Verified}
    {e : Inbound} {q : RoomId} {message : String} (hasks : r.Asks a given who e q message) (htext : IsHeaderText given) :
    answer a ready h r =
      let sent := h.board.routeTo (.roomAndListeners q .staff)
        ⟨.message, some q, ⟨who.identity, who.role⟩, some message, e.data, h.now⟩ none
      (h.withBoard sent.1, ⟨202, reportBody sent.2, true⟩) := by
  have hverified := (credential_verified_iff a r.authorization who).2 ⟨given, hasks.header, htext, hasks.verified⟩
  obtain ⟨text, hbody, -, hdecoded⟩ := hasks.body
  have hchars : Utf8.decode? r.body = some text.toList := (Utf8.decode?_eq_some_iff _ _).2 hbody
  rw [answer_publish a ready h hasks.method hasks.path, publish]
  simp only [hverified, hasks.system, hchars, String.ofList_toList, hdecoded, not_true_eq_false, if_false, ne_eq]
  rw [Hub.publish_of_publishable h _ hasks.publishable]

theorem publish_of_not_asks (a : Setup) (h : Hub σ) {r : Request} (hmethod : r.method = "POST")
    (hpath : r.path = "/publish")
    (hnot : ¬∃ given who e q message, r.Asks a given who e q message ∧ IsHeaderText given) :
    ∃ response, publish a h r = (h, response) ∧ response.status ≠ 202 := by
  unfold publish
  split
  · exact ⟨_, rfl, by decide⟩
  · rename_i who hwho
    obtain ⟨given, hheader, htext, hverified⟩ := (credential_verified_iff a r.authorization who).1 hwho
    split_ifs with hrole
    · exact ⟨_, rfl, by decide⟩
    · split
      · exact ⟨_, rfl, by decide⟩
      · rename_i chars hchars
        have hbody : r.body = Utf8.bytes (String.ofList chars) := by
          rw [Utf8.bytes, String.toList_ofList]
          exact (Utf8.decode?_eq_some_iff _ _).1 hchars
        split
        · exact ⟨_, rfl, by simp⟩
        · exact ⟨_, rfl, by simp⟩
        · rename_i e hdecoded
          -- the request has all else that is asked for, so it is the envelope that cannot be published
          have hunpublishable : ¬∃ q message, e.Publishable q message := by
            rintro ⟨q, message, hpublishable⟩
            refine hnot ⟨given, who, e, q, message, ⟨hmethod, hpath, hheader, hverified, not_not.1 hrole, ?_, hpublishable⟩,
              htext⟩
            refine ⟨_, hbody, ?_, hdecoded⟩
            rw [hbody, ← Utf8.size_eq_length]
            exact Inbound.size_le_of_decode hdecoded
          obtain ⟨reason, hrefused⟩ := Hub.publish_of_not_publishable h ⟨who.identity, who.role⟩ hunpublishable
          rw [hrefused]
          exact ⟨_, rfl, by simp⟩

/-- a request that does not ask to publish a message, in a header that is text, changes nothing -/
theorem answer_of_not_asks (a : Setup) (ready : Bool) (h : Hub σ) {r : Request}
    (hnot : ¬∃ given who e q message, r.Asks a given who e q message ∧ IsHeaderText given) :
    ∃ response, answer a ready h r = (h, response) ∧ response.status ≠ 202 := by
  unfold answer
  split
  · exact ⟨_, rfl, by decide⟩
  · refine ⟨_, rfl, ?_⟩
    split_ifs <;> decide
  · split <;> exact ⟨_, rfl, by simp⟩
  · exact publish_of_not_asks a h ‹_› ‹_› hnot
  · refine ⟨_, rfl, ?_⟩
    split_ifs <;> decide

/-! ## Accepted requests -/

/-- what a hub is after a request to publish a message was accepted, and what is answered -/
structure Accepted (h h' : Hub σ) (response : Response) (who : Verified) (e : Inbound) (q : RoomId) (message : String)
    (recipients : Finset SessionId) (report : RouteReport) : Prop where
  /-- the message is for the members of its room and for the staff that is in no room -/
  audience : ∀ j, j ∈ recipients ↔ ∃ entry, h.board.registry.sessions.get? j = some entry ∧
    (entry.room = some q ∨ entry.room = none ∧ entry.role = .staff)
  /-- it goes to them from whom the credential is of -/
  sent : FannedOut h.board h'.board recipients
    ⟨.message, some q, ⟨who.identity, who.role⟩, some message, e.data, h.now⟩ report
  /-- the answer counts those that got it, and those that were withdrawn for it -/
  reported : response = ⟨202, reportBody report, true⟩
  /-- nothing is stored and nobody is notified, nor does time pass -/
  stored : h'.store = h.store
  notified : h'.notices = h.notices
  clock : h'.now = h.now

/-- **Requests are read-only unless they are accepted.** Whatever a hub went through, a request is accepted exactly when it
asks, in a header that is text, to publish a message under a credential of the system role. Any other request changes
nothing at all; an accepted one sends the message, and is answered with what came of that. -/
theorem requests_accepted_exactly (p : Policy σ) (store : σ) (now : Int64) (running : Bool) (actions : List Hub.Action)
    (a : Setup) (ready : Bool) (r : Request) :
    let h := Hub.run p (Hub.start store now running) actions
    ((answer a ready h r).2.status ≠ 202 → (answer a ready h r).1 = h) ∧
    ((answer a ready h r).2.status = 202 ↔
      ∃ given who e q message, r.Asks a given who e q message ∧ IsHeaderText given) ∧
    ∀ given who e q message, r.Asks a given who e q message → IsHeaderText given →
      ∃ recipients report,
        Accepted h (answer a ready h r).1 (answer a ready h r).2 who e q message recipients report := by
  intro h
  have hs : h.board.Sound Session.Owns := Hub.run_owned p store now running actions
  have ha : h.board.Answers := Hub.run_answers p store now running actions
  refine ⟨fun hstatus => ?_, ⟨fun hstatus => ?_, ?_⟩, fun given who e q message hasks htext => ?_⟩
  · by_cases hasks : ∃ given who e q message, r.Asks a given who e q message ∧ IsHeaderText given
    · obtain ⟨given, who, e, q, message, hasks, htext⟩ := hasks
      rw [answer_of_asks a ready h hasks htext] at hstatus
      exact absurd rfl hstatus
    · obtain ⟨response, hanswer, -⟩ := answer_of_not_asks a ready h hasks
      rw [hanswer]
  · by_contra hnot
    obtain ⟨response, hanswer, hrefused⟩ := answer_of_not_asks a ready h hnot
    rw [hanswer] at hstatus
    exact hrefused hstatus
  · rintro ⟨given, who, e, q, message, hasks, htext⟩
    rw [answer_of_asks a ready h hasks htext]
  · rw [answer_of_asks a ready h hasks htext]
    have haudience := Hub.mem_addressees_chat_none_iff h.board.registry q
    exact ⟨_, _, haudience, hs.routed ha _ _ none, rfl, rfl, rfl, rfl⟩

/-- the service asks to publish a message into a room with one member, whose outbox is full, while one of the staff
listens -/
theorem requests_accepted_exactly_for_service :
    let q := RoomId.ofNat 7
    let session (name : String) (role : Role) (room : Option RoomId) : Hub.Action :=
      .connect ⟨name⟩ { identity := ⟨name⟩, role, currentRoom := room, outbox := .ofCapacity 1 }
    let actions : List Hub.Action :=
      [session "ann" .customer (some q), session "sue" .staff none,
        .deliver ⟨"ann"⟩ ⟨.pong, none, ⟨⟨"ann"⟩, .customer⟩, none, none, 0⟩]
    let h := Hub.run (⟨Store.disabled, {}, 1000⟩ : Policy Unit) (Hub.start () 0 true) actions
    let a : Setup := ⟨{ service := some ⟨"key"⟩ }, 1000, 0⟩
    let text := "\x7b\"type\":\"message\",\"room\":\"7\",\"message\":\"hi\"\x7d"
    let r : Request := ⟨"POST", "/publish", [Utf8.bytes ("Bearer " ++ " key ")], Utf8.bytes text⟩
    let who : Verified := ⟨.system, .system⟩
    let e : Inbound := ⟨.message, some (.string "7"), some "hi", none⟩
    r.Asks a " key " who e q "hi" ∧ IsHeaderText " key " ∧
      (∃ recipients report, Accepted h (answer a true h r).1 (answer a true h r).2 who e q "hi" recipients report) ∧
      (answer a true h r).2 = ⟨202, "\x7b\"delivered\":1,\"dropped\":1\x7d", true⟩ := by
  intro q session actions h a text r who e
  have hdecoded : Inbound.decode a.maxBodyBytes text = .ok (.envelope e) := by cbv
  have hroom : RoomRef.roomOfJson (.string "7") = .ok q := by decide +kernel
  have hasks : r.Asks a " key " who e q "hi" := by
    refine ⟨rfl, rfl, rfl, by decide +kernel, rfl, ⟨text, rfl, by decide +kernel, hdecoded⟩, rfl, ⟨_, rfl, hroom⟩, rfl, ?_⟩
    decide +kernel
  have htext : IsHeaderText " key " := by decide +kernel
  obtain ⟨-, -, haccepted⟩ :=
    requests_accepted_exactly (⟨Store.disabled, {}, 1000⟩ : Policy Unit) () 0 true actions a true r
  refine ⟨hasks, htext, haccepted _ _ _ _ _ hasks htext, ?_⟩
  rw [answer_of_asks a true h hasks htext]
  decide +kernel

/-- the service token has a letter that is not ASCII: a request asks under it to publish a message, and is refused -/
theorem system_credential_beyond_ascii_refused :
    let a : Setup := ⟨{ service := some ⟨"clé"⟩ }, 1000, 0⟩
    let text := "\x7b\"type\":\"message\",\"room\":\"7\",\"message\":\"hi\"\x7d"
    let r : Request := ⟨"POST", "/publish", [Utf8.bytes ("Bearer " ++ "clé")], Utf8.bytes text⟩
    let h : Hub Unit := Hub.start () 0 true
    ¬((answer a true h r).2.status = 202 ↔ ∃ given who e q message, r.Asks a given who e q message) := by
  intro a text r h hiff
  let e : Inbound := ⟨.message, some (.string "7"), some "hi", none⟩
  have hdecoded : Inbound.decode a.maxBodyBytes text = .ok (.envelope e) := by cbv
  have hroom : RoomRef.roomOfJson (.string "7") = .ok (.ofNat 7) := by decide +kernel
  have hasks : r.Asks a "clé" ⟨.system, .system⟩ e (.ofNat 7) "hi" := by
    refine ⟨rfl, rfl, rfl, by decide +kernel, rfl, ⟨text, rfl, by decide +kernel, hdecoded⟩, rfl, ⟨_, rfl, hroom⟩, rfl, ?_⟩
    decide +kernel
  have hrefused : (answer a true h r).2.status = 401 := by decide +kernel
  have haccepted := hiff.2 ⟨_, _, _, _, _, hasks⟩
  rw [hrefused] at haccepted
  cases haccepted

end Admin
end ErrandHub
