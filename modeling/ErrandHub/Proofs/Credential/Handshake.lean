/-
What a request is let in on account of.

Of all that a request says, three things count: its first token pair, its first room pair and, only if there is no token
pair at all, its first authorization header (`RequestHead.Leads`). A token pair rules the headers out by standing there: a
blank one does so too, and leaves the request without a credential. The credential is looked at before the room, so that a
refusal for it says nothing of the room.

- `First`: the first of a list with a property; `first_iff_lookup` and `first_iff_head?` find it the way requests are read.
- `handshake_of_leads`: what is taken from a request, by what it says first.
- `admission_eq_unauthorized_iff`: a request is refused for its credential, whatever its room.
- `handshake_depends_on_first`: requests that say the same first are treated alike.
-/
import Mathlib.Tactic
import ErrandHub.Connection.RequestHead

namespace ErrandHub

/-! ## What comes first -/

section First

variable {α β : Type} {p : α → Prop} {f : α → β} {xs : List α} {v : Option β}

/-- what the first of a list with a property says; there is none if no one has the property -/
inductive First (p : α → Prop) (f : α → β) : List α → Option β → Prop where
  | found {before after : List α} {a : α} (earlier : ∀ b ∈ before, ¬p b) (here : p a) :
    First p f (before ++ a :: after) (some (f a))
  | absent {xs : List α} (nowhere : ∀ a ∈ xs, ¬p a) : First p f xs none

theorem First.cons {a : α} (ha : ¬p a) (h : First p f xs v) : First p f (a :: xs) v := by
  cases h with
  | found earlier here =>
    rw [← List.cons_append]
    exact .found (List.forall_mem_cons.2 ⟨ha, earlier⟩) here
  | absent nowhere => exact .absent (List.forall_mem_cons.2 ⟨ha, nowhere⟩)

theorem exists_first (p : α → Prop) (f : α → β) (xs : List α) : ∃ v, First p f xs v := by
  classical
  induction xs with
  | nil => exact ⟨none, .absent nofun⟩
  | cons a xs ih =>
    by_cases ha : p a
    · rw [← List.nil_append (a :: xs)]
      exact ⟨some (f a), .found nofun ha⟩
    obtain ⟨v, hv⟩ := ih
    exact ⟨v, hv.cons ha⟩

theorem First.head? [DecidablePred p] (h : First p f xs v) : ((xs.filter fun a => p a).map f).head? = v := by
  cases h with
  | @found before after a earlier here =>
    have hbefore : before.filter (fun a => p a) = [] := List.filter_eq_nil_iff.2 fun b hb => by simpa using earlier b hb
    rw [List.filter_append, hbefore, List.nil_append, List.filter_cons_of_pos (by simpa using here)]
    rfl
  | absent nowhere =>
    have hnone : xs.filter (fun a => p a) = [] := List.filter_eq_nil_iff.2 fun a ha => by simpa using nowhere a ha
    rw [hnone]
    rfl

theorem first_iff_head? [DecidablePred p] : First p f xs v ↔ ((xs.filter fun a => p a).map f).head? = v := by
  refine ⟨First.head?, ?_⟩
  rintro rfl
  obtain ⟨v, hv⟩ := exists_first p f xs
  rwa [hv.head?]

end First

theorem first_iff_lookup {name : String} {pairs : List (String × String)} {v : Option String} :
    First (fun p => p.1 = name) Prod.snd pairs v ↔ pairs.lookup name = v := by
  have hlookup : ∀ w, First (fun p => p.1 = name) Prod.snd pairs w → pairs.lookup name = w := by
    intro w h
    cases h with
    | @found before after a earlier here =>
      obtain ⟨name', value⟩ := a
      cases here
      exact List.lookup_eq_some_iff.2 ⟨before, after, rfl, fun p hp => bne_iff_ne.2 (Ne.symm (earlier p hp))⟩
    | absent nowhere => exact List.lookup_eq_none_iff.2 fun p hp => bne_iff_ne.2 (Ne.symm (nowhere p hp))
  refine ⟨hlookup v, ?_⟩
  rintro rfl
  obtain ⟨w, hw⟩ := exists_first (fun p : String × String => p.1 = name) Prod.snd pairs
  rwa [hlookup w hw]

/-! ## Requests -/

namespace RequestHead

def pairs (h : RequestHead) : List (String × String) := Query.pairs (Query.ofTarget (textOf h.target))

/-- the first of what a request says: of its token pairs, of its room pairs and, as long as there is no token pair, of its
authorization headers, whose name may be written in capitals -/
structure Leads (h : RequestHead) (token room : Option String) (header : Option (List UInt8)) : Prop where
  tokenPair : First (fun p => p.1 = "token") Prod.snd h.pairs token
  roomPair : First (fun p => p.1 = "room") Prod.snd h.pairs room
  authorization : token = none → First (fun e => Text.lower (textOf e.1) = "authorization") Prod.snd h.headers header

theorem exists_leads (h : RequestHead) : ∃ token room header, h.Leads token room header := by
  obtain ⟨token, htoken⟩ := exists_first (fun p => p.1 = "token") Prod.snd h.pairs
  obtain ⟨room, hroom⟩ := exists_first (fun p => p.1 = "room") Prod.snd h.pairs
  obtain ⟨header, hheader⟩ := exists_first (fun e => Text.lower (textOf e.1) = "authorization") Prod.snd h.headers
  exact ⟨token, room, header, htoken, hroom, fun _ => hheader⟩

variable {h : RequestHead} {token room : Option String} {header : Option (List UInt8)}

/-- what is taken from a request: the credential is that of the token pair or else that of the header -/
theorem handshake_of_leads (hleads : h.Leads token room header) :
    h.handshake = ⟨Handshake.filled (token.or (header.bind Handshake.bearer?)), Handshake.filled room⟩ := by
  have hpairs : h.handshake = Handshake.ofPairs h.pairs (h.values "authorization") := rfl
  rw [hpairs, Handshake.ofPairs, first_iff_lookup.1 hleads.tokenPair, first_iff_lookup.1 hleads.roomPair]
  -- which header comes first is known, and matters, only if there is no token pair
  cases token with
  | some token => rfl
  | none =>
    have hvalues : (h.values "authorization").head? = header := first_iff_head?.1 (hleads.authorization rfl)
    rw [hvalues]
    rfl

/-- a token pair rules out the headers -/
theorem Leads.with_headers {token : String} (hleads : h.Leads (some token) room header)
    (headers : List (List UInt8 × List UInt8)) : { h with headers }.Leads (some token) room header :=
  ⟨hleads.tokenPair, hleads.roomPair, nofun⟩

end RequestHead

/-! ## Admission -/

namespace Handshake

variable {v : Verifier} {now : Nat}

/-- a credential is bad: there is none, or it is refused -/
inductive Bad (v : Verifier) (now : Nat) : Option String → AuthError → Prop where
  | missing : Bad v now none .missing
  | refused {token : String} {e : AuthError} (h : v.verify now token = .error e) : Bad v now (some token) e

/-- a request with a bad credential is refused for it, whatever its room -/
theorem Bad.admission {token : Option String} {e : AuthError} (h : Bad v now token e) (room : Option String) :
    admission ⟨token, room⟩ v now = .error (.unauthorized e.detail) := by
  cases h with
  | missing => rfl
  | refused h => simp only [Handshake.admission, h]

/-- a good credential leaves only the room to refuse the request for -/
theorem admission_of_verified {token : String} {who : Verified} (h : v.verify now token = .ok who) (room : Option String) :
    (∃ e, admission ⟨some token, room⟩ v now = .error (.badRoom e)) ∨
      ∃ place, admission ⟨some token, room⟩ v now = .ok ⟨who, place⟩ := by
  simp only [admission, h]
  cases room with
  | none => exact .inr ⟨none, rfl⟩
  | some raw =>
    cases hroom : RoomRef.roomOfText raw with
    | error e => exact .inl ⟨e, by simp only [hroom]⟩
    | ok q => exact .inr ⟨some q, by simp only [hroom]⟩

/-- a request is refused for its credential only if that is bad -/
theorem admission_eq_unauthorized_iff (token room : Option String) (detail : String) :
    admission ⟨token, room⟩ v now = .error (.unauthorized detail) ↔ ∃ e, Bad v now token e ∧ detail = e.detail := by
  constructor
  · intro h
    cases token with
    | none =>
      refine ⟨.missing, .missing, ?_⟩
      cases h
      rfl
    | some token =>
      cases hverified : v.verify now token with
      | error e =>
        rw [Bad.admission (.refused hverified)] at h
        cases h
        exact ⟨e, .refused hverified, rfl⟩
      | ok who =>
        obtain ⟨e, hroom⟩ | ⟨place, hin⟩ := admission_of_verified hverified room
        · cases h.symm.trans hroom
        · cases h.symm.trans hin
  · rintro ⟨e, hbad, rfl⟩
    exact hbad.admission room

/-- **What comes first counts.** Of every request it is settled what it says first. The token and the room that are taken
from it depend on that alone; so they are the same for two requests that say the same first. A token pair, blank or not,
makes the headers irrelevant. Whether a credential is refused, and what for, has nothing to do with the room, valid or
not. -/
theorem handshake_depends_on_first (v : Verifier) (now : Nat) :
    (∀ h : RequestHead, ∃ token room header, h.Leads token room header) ∧
    (∀ (h h' : RequestHead) (token room : Option String) (header : Option (List UInt8)),
      h.Leads token room header → h'.Leads token room header → h.handshake = h'.handshake) ∧
    (∀ (h : RequestHead) (token : String) (room : Option String) (header : Option (List UInt8)),
      h.Leads (some token) room header →
        (∀ headers, { h with headers }.handshake = h.handshake) ∧ h.handshake = ⟨filled (some token), filled room⟩) ∧
    ∀ (token room : Option String) (detail : String),
      admission ⟨token, room⟩ v now = .error (.unauthorized detail) ↔ ∃ e, Bad v now token e ∧ detail = e.detail := by
  refine ⟨RequestHead.exists_leads, ?_, ?_, admission_eq_unauthorized_iff⟩
  · intro h h' token room header hleads hleads'
    rw [RequestHead.handshake_of_leads hleads, RequestHead.handshake_of_leads hleads']
  · intro h token room header hleads
    have hhandshake := RequestHead.handshake_of_leads hleads
    refine ⟨fun headers => ?_, hhandshake⟩
    rw [RequestHead.handshake_of_leads (hleads.with_headers headers), hhandshake]

/-- two requests with a blank token pair, of which one goes on to say the service token; two with no such pair, of which one
says a second credential; and a service token that is not the right one -/
theorem handshake_depends_on_first_of_two :
    let request (target : String) (credentials : List (String × String)) : RequestHead :=
      { target := Utf8.bytes target, headers := credentials.map fun c => (Utf8.bytes c.1, Utf8.bytes c.2) }
    let blank := request "/ws?token=%20&room=7&token=key" [("Authorization", "Bearer key")]
    let blank' := request "/?a=b&token=+&room=%37&room=8" []
    let plain := request "/ws?room=7&room=8"
      [("Host", "hub"), ("AUTHORIZATION", "Bearer key"), ("Authorization", "Bearer k")]
    let plain' := request "/ws?token&room=7" [("authorization", "Bearer key")]
    let bare := request "/ws?room=7#&token=k" [("authorization", "Bearer key")]
    let v : Verifier := { service := some ⟨"key"⟩ }
    blank.handshake = blank'.handshake ∧ blank.handshake = ⟨none, some "7"⟩ ∧
      plain.handshake = bare.handshake ∧ plain.handshake = ⟨some "key", some "7"⟩ ∧
      plain'.handshake = ⟨none, some "7"⟩ ∧
      admission ⟨some "k", some "8"⟩ v 0 = admission ⟨some "k", some "eight"⟩ v 0 := by
  intro request blank blank' plain plain' bare v
  obtain ⟨-, hfirst, hpair, hrefused⟩ := handshake_depends_on_first v 0
  have hblank : blank.Leads (some " ") (some "7") none :=
    ⟨first_iff_lookup.2 (by decide +kernel), first_iff_lookup.2 (by decide +kernel), nofun⟩
  have hblank' : blank'.Leads (some " ") (some "7") none :=
    ⟨first_iff_lookup.2 (by decide +kernel), first_iff_lookup.2 (by decide +kernel), nofun⟩
  have hplain : plain.Leads none (some "7") (some (Utf8.bytes "Bearer key")) :=
    ⟨first_iff_lookup.2 (by decide +kernel), first_iff_lookup.2 (by decide +kernel),
      fun _ => first_iff_head?.2 (by decide +kernel)⟩
  have hbare : bare.Leads none (some "7") (some (Utf8.bytes "Bearer key")) :=
    ⟨first_iff_lookup.2 (by decide +kernel), first_iff_lookup.2 (by decide +kernel),
      fun _ => first_iff_head?.2 (by decide +kernel)⟩
  have hplain' : plain'.Leads (some "") (some "7") none :=
    ⟨first_iff_lookup.2 (by decide +kernel), first_iff_lookup.2 (by decide +kernel), nofun⟩
  have hbad : Bad v 0 (some "k") .notConfigured := .refused (by decide +kernel)
  exact ⟨hfirst _ _ _ _ _ hblank hblank', (hpair _ _ _ _ hblank).2.trans (by decide +kernel),
    hfirst _ _ _ _ _ hplain hbare, by decide +kernel, (hpair _ _ _ _ hplain').2.trans (by decide +kernel),
    ((hrefused _ _ _).2 ⟨_, hbad, rfl⟩).trans ((hrefused _ _ _).2 ⟨_, hbad, rfl⟩).symm⟩

end Handshake

end ErrandHub
