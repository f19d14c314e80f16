/-
The configuration file.

A file is a TOML document with up to five sections. Each section is a table, in which settings of other names
are skipped, or an array of its settings in order. A setting of the wrong type spoils the file; a number that
is zero and a text that is blank count as not set. `ofFile` fills in what is not set.
-/
import ErrandHub.Config.Basic
import ErrandHub.Number.Word
import ErrandHub.Text.Utf8
import ErrandHub.Toml.Document

namespace ErrandHub.Config

/-- what is found in place of a configuration file -/
inductive Source where
  | absent
  /-- something that is no file -/
  | unreadable
  | file (bytes : List UInt8)
  deriving DecidableEq

inductive LoadError where
  | unreadable
  | malformed
  deriving DecidableEq, Repr

def LoadError.message : LoadError → String
  | .unreadable => "read config file"
  | .malformed => "parse TOML"

def text? : Toml.Value → Option String
  | .string s => some s
  | _ => none

def word64? : Toml.Value → Option UInt64
  | .integer i => Word.ofInt? i
  | _ => none

def word32? : Toml.Value → Option UInt32
  | .integer i => Word.shortOfInt? i
  | _ => none

def bool? : Toml.Value → Option Bool
  | .bool b => some b
  | _ => none

def texts? : Toml.Value → Option (List String)
  | .array items => items.mapM text?
  | _ => none

/-- the settings of a section by name: `needed` ones must be there when the section is an array, `spare` ones need not -/
def fieldsOf? (needed spare : List String) : Toml.Value → Option Toml.Members
  | .table _ ms => some ms
  | .datetime => some []
  | .array items => if needed.length ≤ items.length then some ((needed ++ spare).zip items) else none
  | .tables elements =>
    if needed.length ≤ elements.length then
      some ((needed ++ spare).zip (elements.reverse.map fun ms => .table .header ms))
    else none
  | _ => none

/-- a section of a document; one that is not there has no settings -/
def settingsOf (ms : Toml.Members) (name : String) (needed spare : List String) : Option Toml.Members :=
  match ms.lookup name with
  | none => some []
  | some v => fieldsOf? needed spare v

/-- a setting of a section, if it is there -/
def setting {α : Type} (read : Toml.Value → Option α) (ms : Toml.Members) (name : String) : Option (Option α) :=
  match ms.lookup name with
  | none => some none
  | some v => (read v).map some

structure File where
  bind : Option String := none
  adminBind : Option String := none
  metricsBind : Option String := none
  secret : Option String := none
  service : Option String := none
  maxMessageBytes : Option UInt64 := none
  handshakeTimeout : Option UInt64 := none
  outboxCapacity : Option UInt64 := none
  pingInterval : Option UInt64 := none
  readDeadline : Option UInt64 := none
  maxMissedPongs : Option UInt32 := none
  writeTimeout : Option UInt64 := none
  commandQueueCapacity : Option UInt64 := none
  persistence : Option Bool := none
  databaseUrl : Option String := none
  notify : Option Bool := none
  staff : List String := []
  deriving DecidableEq

namespace File

def ofMembers? (ms : Toml.Members) : Option File := do
  let server ← settingsOf ms "server"
    ["bind", "admin_bind", "metrics_bind", "auth_hmac_secret", "service_token", "max_message_bytes",
      "handshake_timeout_ms"] []
  let session ← settingsOf ms "session"
    ["outbox_capacity", "ping_interval_ms", "read_deadline_ms", "max_missed_pongs", "write_timeout_ms"] []
  let registry ← settingsOf ms "registry" ["command_queue_capacity"] []
  let persistence ← settingsOf ms "persistence" ["enabled", "database_url"] []
  let notify ← settingsOf ms "notify" ["enabled"] ["staff_recipients"]
  return {
    bind := ← setting text? server "bind"
    adminBind := ← setting text? server "admin_bind"
    metricsBind := ← setting text? server "metrics_bind"
    secret := ← setting text? server "auth_hmac_secret"
    service := ← setting text? server "service_token"
    maxMessageBytes := ← setting word64? server "max_message_bytes"
    handshakeTimeout := ← setting word64? server "handshake_timeout_ms"
    outboxCapacity := ← setting word64? session "outbox_capacity"
    pingInterval := ← setting word64? session "ping_interval_ms"
    readDeadline := ← setting word64? session "read_deadline_ms"
    maxMissedPongs := ← setting word32? session "max_missed_pongs"
    writeTimeout := ← setting word64? session "write_timeout_ms"
    commandQueueCapacity := ← setting word64? registry "command_queue_capacity"
    persistence := ← setting bool? persistence "enabled"
    databaseUrl := ← setting text? persistence "database_url"
    notify := ← setting bool? notify "enabled"
    staff := (← setting texts? notify "staff_recipients").getD [] }

def read : Source → Except LoadError File
  | .absent => .ok {}
  | .unreadable => .error .unreadable
  | .file bytes =>
    match Utf8.decode? bytes with
    | none => .error .unreadable
    | some chars =>
      match (Toml.read chars).bind ofMembers? with
      | none => .error .malformed
      | some f => .ok f

end File

/-- a text that is set to something, trimmed -/
def filled (s : Option String) : Option String := s.bind Text.trimmed?

/-- a number that is set to something -/
def positive (n : Option UInt64) : Option UInt64 := n.filter fun n => n ≠ 0

def span (n : Option UInt64) : Option Duration := (positive n).map Duration.ofMillis

/-- the configuration of a file, with what is not set filled in -/
def ofFile (f : File) : Config :=
  let plain : Config := {}
  { server :=
      { bind := (filled f.bind).getD plain.server.bind
        adminBind := filled f.adminBind
        metricsBind := filled f.metricsBind
        verifier := ⟨(filled f.secret).map Secret.mk, (filled f.service).map Secret.mk⟩ }
    session :=
      { outboxCapacity := (positive f.outboxCapacity).getD plain.session.outboxCapacity
        pingInterval := (span f.pingInterval).getD plain.session.pingInterval
        readDeadline := (span f.readDeadline).getD plain.session.readDeadline
        maxMissedPongs := (f.maxMissedPongs.filter fun n => n ≠ 0).getD plain.session.maxMissedPongs
        writeTimeout := (span f.writeTimeout).getD plain.session.writeTimeout
        maxMessageBytes := (positive f.maxMessageBytes).getD plain.session.maxMessageBytes
        handshakeTimeout := (span f.handshakeTimeout).getD plain.session.handshakeTimeout }
    commandQueueCapacity := (positive f.commandQueueCapacity).getD plain.commandQueueCapacity
    persistence := ⟨f.persistence.getD false, filled f.databaseUrl⟩
    notify := ⟨f.notify.getD false, f.staff.filterMap fun s => (Text.trimmed? s).map Identity.mk⟩ }

end ErrandHub.Config
