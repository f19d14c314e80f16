/-
The command line, and what comes of starting the hub.

The command line is a sequence of options with values. `launch` follows the start of the hub step by step: the
command line, the configuration, the metrics listener, the store, the admin listener and at last the listener for
clients. Each step can end the start, and each can leave warnings behind that do not.
-/
import ErrandHub.Config.Environment
import ErrandHub.Store.Sql

namespace ErrandHub.CommandLine

/-- what the command line asks for -/
structure Arguments where
  /-- the address for clients, as it was given -/
  bind : Option String := none
  /-- the configuration file -/
  config : Option String := none
  deriving DecidableEq, Repr

inductive UsageError where
  | help
  | missingValue
  | blankBind
  | unknownArgument (argument : String)
  deriving DecidableEq, Repr

def usage : String :=
  "Usage: errand_hub [--bind host:port] [--config path]\n\nOptions:\n" ++
  "\t--bind     WebSocket bind address (default: 127.0.0.1:18400)\n" ++
  "\t--config   Config file (default: ~/.errand/hub.toml)\n" ++
  "\t--help     Show this help\n\n"

namespace UsageError

/-- the line before the usage -/
def note : UsageError → String
  | .help => ""
  | .missingValue => ""
  | .blankBind => "--bind must be non-empty (expected host:port)\n"
  | .unknownArgument a => "Unknown argument: " ++ a ++ "\n"

def text (e : UsageError) : String := e.note ++ usage

end UsageError

/-- the options that name the address for clients -/
def bindOptions : List String := ["--bind", "--listen"]

def helpOptions : List String := ["--help", "-h"]

/-- read the rest of a command line after what has been read of it -/
def parseAfter (read : Arguments) : List String → Except UsageError Arguments
  | [] => .ok read
  | [a] =>
    if helpOptions.contains a then .error .help
    else if bindOptions.contains a || a = "--config" then .error .missingValue
    else .error (.unknownArgument a)
  | a :: v :: rest =>
    if helpOptions.contains a then .error .help
    else if bindOptions.contains a then
      if Text.isBlank v then .error .blankBind else parseAfter { read with bind := some v } rest
    else if a = "--config" then parseAfter { read with config := some v } rest
    else .error (.unknownArgument a)

def parse (arguments : List String) : Except UsageError Arguments := parseAfter {} arguments

/-- the configuration file that is read, in a home directory -/
def Arguments.configPath (a : Arguments) (home : String) : String := a.config.getD (Config.defaultPath home)

inductive Failure where
  | config (path : String) (reason : Config.LoadError)
  | noDatabaseUrl
  | store (reason : Sql.StoreError)
  | bind (address : String)
  deriving DecidableEq

namespace Failure

def message : Failure → String
  | .config path _ => "read config from " ++ path
  | .noDatabaseUrl => "persistence enabled but no database_url configured"
  | .store _ => "connect message store"
  | .bind address => "bind " ++ address

/-- what is known of the causes behind it; `none` when there are none at all -/
def causes? : Failure → Option (List String)
  | .config _ reason => some [reason.message]
  | .noDatabaseUrl => none
  | .store reason => some [reason.message]
  | .bind _ => some []

/-- what is printed before the causes -/
def text (f : Failure) : String := "Error: " ++ f.message ++ (if f.causes?.isNone then "\n" else "")

def causesText (f : Failure) : String :=
  match f.causes? with
  | none => ""
  | some causes => "\n\nCaused by:\n" ++ String.join (causes.map fun c => "    " ++ c ++ "\n")

end Failure

/-- something that is amiss and does not keep the hub from starting -/
inductive Warning where
  | metricsNotStarted
  | invalidAdminBind
  | invalidMetricsBind
  | everyUpgradeRefused
  | noCredentialConfigured
  | pingIntervalClamped
  deriving DecidableEq, Repr

namespace Warning

/-- every warning, in the order of their wording -/
def all : List Warning :=
  [.metricsNotStarted, .invalidAdminBind, .invalidMetricsBind, .everyUpgradeRefused, .noCredentialConfigured,
    .pingIntervalClamped]

def message : Warning → String
  | .metricsNotStarted => "failed to start metrics exporter"
  | .invalidAdminBind => "invalid admin bind address (expected host:port)"
  | .invalidMetricsBind => "invalid metrics bind address (expected host:port)"
  | .everyUpgradeRefused => "no auth_hmac_secret or service_token configured; every upgrade will be refused"
  | .noCredentialConfigured =>
    "server auth: no auth_hmac_secret or service_token configured; all upgrades will be refused"
  | .pingIntervalClamped => "session config: ping_interval >= read_deadline; clamping"

end Warning

/-- what the start of the hub depends on -/
structure Surroundings where
  /-- what is found at a path -/
  source : String → Config.Source
  environment : Config.Environment
  home : String
  /-- the databases on disk -/
  disk : Sql.Disk := {}
  /-- whether the host of an address is written by number -/
  isAddress : String → Bool
  /-- whether a listener can be opened at an address -/
  canListen : String → Bool

inductive Outcome where
  | usage (reason : UsageError)
  | failed (reason : Failure) (warnings : List Warning)
  | ready (config : Config) (warnings : List Warning)

/-- the warnings that a configuration gives rise to before the store is connected -/
def configWarnings (s : Surroundings) (loaded : Config) (clamped : Bool) : List Warning :=
  let metrics :=
    match loaded.server.metricsBind with
    | none => []
    | some a =>
      if !s.isAddress a then [.invalidMetricsBind] else if s.canListen a then [] else [.metricsNotStarted]
  let credentials :=
    if loaded.server.verifier.isConfigured then [] else [.everyUpgradeRefused, .noCredentialConfigured]
  metrics ++ credentials ++ if clamped then [.pingIntervalClamped] else []

def adminWarnings (s : Surroundings) (loaded : Config) : List Warning :=
  match loaded.server.adminBind with
  | none => []
  | some a => if s.isAddress a then [] else [.invalidAdminBind]

def connectStore (s : Surroundings) (loaded : Config) : Option Failure :=
  if !loaded.persistence.enabled then none
  else
    match loaded.persistence.databaseUrl with
    | none => some .noDatabaseUrl
    | some url =>
      match Sql.Connection.connect s.disk url with
      | .ok _ => none
      | .error e => some (.store e)

def launchWith (s : Surroundings) (bind : Option String) (unclamped : Config) : Outcome :=
  let loaded := { unclamped with session := unclamped.session.clamped }
  let loaded := { loaded with server := { loaded.server with bind := bind.getD loaded.server.bind } }
  let warnings := configWarnings s loaded unclamped.session.pingsTooLate
  match connectStore s loaded with
  | some f => .failed f warnings
  | none =>
    let warnings := warnings ++ adminWarnings s loaded
    if s.canListen loaded.server.bind then .ready loaded warnings else .failed (.bind loaded.server.bind) warnings

def launch (s : Surroundings) (arguments : List String) : Outcome :=
  match parse arguments with
  | .error e => .usage e
  | .ok args =>
    let path := args.configPath s.home
    match Config.unclamped (s.source path) s.environment with
    | .error e => .failed (.config path e) []
    | .ok c => launchWith s args.bind c

/-- the exit status of a start; a hub that runs until it is interrupted ends well -/
def Outcome.exitStatus : Outcome → Nat
  | .usage _ => 2
  | .failed .. => 1
  | .ready .. => 0

end ErrandHub.CommandLine
