/-
The environment, and the configuration that the hub starts with.

Each variable overrides one setting. A value counts when, trimmed, it is not blank and means something for that
setting: a number above zero in plain digits, a word for yes or no, any text. Every other value is as good as
none. `load` reads the file, applies the variables and clamps the ping interval at last.
-/
import ErrandHub.Config.File

namespace ErrandHub.Config

/-- the values of environment variables -/
abbrev Environment := String → Option String

namespace Environment

/-- the variables that are looked at -/
def names : List String :=
  ["ERRAND_HUB_BIND", "ERRAND_HUB_ADMIN_BIND", "ERRAND_HUB_METRICS_BIND", "ERRAND_HUB_AUTH_HMAC_SECRET",
    "ERRAND_HUB_SERVICE_TOKEN", "ERRAND_HUB_OUTBOX_CAPACITY", "ERRAND_HUB_PING_INTERVAL_MS",
    "ERRAND_HUB_READ_DEADLINE_MS", "ERRAND_HUB_MAX_MESSAGE_BYTES", "ERRAND_HUB_HANDSHAKE_TIMEOUT_MS",
    "ERRAND_HUB_PERSISTENCE_ENABLED", "ERRAND_HUB_DATABASE_URL", "ERRAND_HUB_NOTIFY_ENABLED"]

/-- a number of 64 bits above zero, in digits after an optional plus sign -/
def word? (s : String) : Option UInt64 :=
  let digits :=
    match s.toList with
    | '+' :: rest => rest
    | cs => cs
  ((Text.decimal? digits).filter fun n => 0 < n).bind Word.ofNat?

/-- the words for yes and no -/
def words : List (String × Bool) :=
  [("1", true), ("true", true), ("yes", true), ("on", true), ("0", false), ("false", false), ("no", false),
    ("off", false)]

/-- a word for yes or no in any ASCII case -/
def bool? (s : String) : Option Bool := words.lookup (Text.lower s)

/-- what a variable sets, if its value means something -/
def value? {α : Type} (env : Environment) (name : String) (read : String → Option α) : Option α :=
  ((env name).bind Text.trimmed?).bind read

end Environment

/-- a configuration with the settings that the environment overrides -/
def override (env : Environment) (c : Config) : Config :=
  { server :=
      { bind := (env.value? "ERRAND_HUB_BIND" some).getD c.server.bind
        adminBind := (env.value? "ERRAND_HUB_ADMIN_BIND" some).or c.server.adminBind
        metricsBind := (env.value? "ERRAND_HUB_METRICS_BIND" some).or c.server.metricsBind
        verifier :=
          { secret := (env.value? "ERRAND_HUB_AUTH_HMAC_SECRET" fun s => some ⟨s⟩).or c.server.verifier.secret
            service := (env.value? "ERRAND_HUB_SERVICE_TOKEN" fun s => some ⟨s⟩).or c.server.verifier.service } }
    session :=
      { outboxCapacity := (env.value? "ERRAND_HUB_OUTBOX_CAPACITY" Environment.word?).getD c.session.outboxCapacity
        pingInterval :=
          ((env.value? "ERRAND_HUB_PING_INTERVAL_MS" Environment.word?).map .ofMillis).getD c.session.pingInterval
        readDeadline :=
          ((env.value? "ERRAND_HUB_READ_DEADLINE_MS" Environment.word?).map .ofMillis).getD c.session.readDeadline
        maxMissedPongs := c.session.maxMissedPongs
        writeTimeout := c.session.writeTimeout
        maxMessageBytes :=
          (env.value? "ERRAND_HUB_MAX_MESSAGE_BYTES" Environment.word?).getD c.session.maxMessageBytes
        handshakeTimeout :=
          ((env.value? "ERRAND_HUB_HANDSHAKE_TIMEOUT_MS" Environment.word?).map .ofMillis).getD
            c.session.handshakeTimeout }
    commandQueueCapacity := c.commandQueueCapacity
    persistence :=
      { enabled := (env.value? "ERRAND_HUB_PERSISTENCE_ENABLED" Environment.bool?).getD c.persistence.enabled
        databaseUrl := (env.value? "ERRAND_HUB_DATABASE_URL" some).or c.persistence.databaseUrl }
    notify :=
      { enabled := (env.value? "ERRAND_HUB_NOTIFY_ENABLED" Environment.bool?).getD c.notify.enabled
        staff := c.notify.staff } }

/-- the configuration before the ping interval is clamped -/
def unclamped (source : Source) (env : Environment) : Except LoadError Config :=
  match File.read source with
  | .error e => .error e
  | .ok f => .ok (override env (ofFile f))

def load (source : Source) (env : Environment) : Except LoadError Config :=
  match unclamped source env with
  | .error e => .error e
  | .ok c => .ok { c with session := c.session.clamped }

/-- the home directory: what the variable says, unless it is empty, or else that of the account -/
def home (variableValue : Option String) (account : String) : String :=
  (variableValue.filter fun s => !s.isEmpty).getD account

/-- the file that is read when no other is named, in a home directory -/
def defaultPath (home : String) : String :=
  home ++ (if home.toList.getLast? = some '/' then "" else "/") ++ ".errand/hub.toml"

end ErrandHub.Config
