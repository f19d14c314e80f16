/-
The admin surface of the hub.

Four paths are known: two that say how the hub is, one that counts the members of the rooms, and one that
publishes a message on behalf of the service. Publishing needs a credential of the system role; everything
else is open. A request that is not accepted changes nothing.
-/
import ErrandHub.Credential.Handshake
import ErrandHub.Hub.State

namespace ErrandHub.Admin

structure Request where
  method : String
  path : String
  /-- the values of the authorization headers -/
  authorization : List (List UInt8)
  body : List UInt8

structure Response where
  status : Nat
  body : String := ""
  /-- whether the body is JSON and says so -/
  json : Bool := false
  deriving DecidableEq, Repr

/-- how the admin surface is set up -/
structure Setup where
  verifier : Verifier
  /-- bytes of the longest body that is decoded -/
  maxBodyBytes : Nat
  /-- seconds since 1970 -/
  now : Nat

def paths : List String := ["/healthz", "/readyz", "/rooms", "/publish"]

/-- the credential of a request, blank if it has none -/
def credential (authorization : List (List UInt8)) : String :=
  ((authorization.head?.bind headerText?).bind (afterWord? "Bearer ".toList)).elim "" fun t =>
    String.ofList (Text.trimChars t)

/-- the members of the rooms in the order of their texts -/
def roomsBody (counts : List (RoomId × Nat)) : String :=
  let sorted := counts.mergeSort fun a b => a.1.toNat ≤ b.1.toNat
  String.ofList (Json.braces (sorted.map fun c => (c.1.text, (toString c.2).toList)))

def reportBody (r : RouteReport) : String :=
  String.ofList (Json.braces [("delivered", (toString r.delivered).toList), ("dropped", (toString r.dropped).toList)])

variable {σ : Type}

/-- publish the message in the body of a request -/
def publish (a : Setup) (h : Hub σ) (r : Request) : Hub σ × Response :=
  match a.verifier.verify a.now (credential r.authorization) with
  | .error _ => (h, ⟨401, "unauthorized", false⟩)
  | .ok who =>
    if who.role ≠ .system then (h, ⟨401, "service token required", false⟩)
    else
      match Utf8.decode? r.body with
      | none => (h, ⟨400, "body is not utf-8", false⟩)
      | some chars =>
        match Inbound.decode a.maxBodyBytes (String.ofList chars) with
        | .error e => (h, ⟨400, e.message, false⟩)
        | .ok (.unknown type) => (h, ⟨400, "unsupported envelope type: " ++ type, false⟩)
        | .ok (.envelope e) =>
          match h.publish ⟨who.identity, who.role⟩ e with
          | (h, .error reason) => (h, ⟨400, reason.message, false⟩)
          | (h, .ok report) => (h, ⟨202, reportBody report, true⟩)

/-- answer a request, given whether the hub is ready -/
def answer (a : Setup) (ready : Bool) (h : Hub σ) (r : Request) : Hub σ × Response :=
  match r.method, r.path with
  | "GET", "/healthz" => (h, ⟨200, "ok", false⟩)
  | "GET", "/readyz" => (h, if ready then ⟨200, "ready", false⟩ else ⟨503, "not-ready", false⟩)
  | "GET", "/rooms" =>
    match h.board.counts with
    | .ok counts => (h, ⟨200, roomsBody counts, true⟩)
    | .error e => (h, ⟨503, e.message, false⟩)
  | "POST", "/publish" => publish a h r
  | _, path => (h, if paths.contains path then ⟨405, "", false⟩ else ⟨404, "", false⟩)

end ErrandHub.Admin
