/-
The program.

It gathers the command line, the configuration file and the environment, and prints what keeps the hub from
starting. Once the hub is ready it serves one client at the console: the first line names the target of the upgrade
request, each later line is a frame, and every frame that the client sees is printed.
-/
import ErrandHub.Address
import ErrandHub.CommandLine
import ErrandHub.Hub.Service
import Std.Time.DateTime.Timestamp

namespace ErrandHub.Console

/-- what is found at a path -/
def readSource (path : String) : IO Config.Source := do
  match ← (IO.FS.readBinFile path).toBaseIO with
  | .ok bytes => pure (.file bytes.toList)
  | .error (.noFileOrDirectory ..) => pure .absent
  | .error _ => pure .unreadable

def readEnvironment : IO Config.Environment := do
  let found ← Config.Environment.names.mapM fun name => do
    pure (name, ← IO.getEnv name)
  pure fun name => (found.lookup name).getD none

/-- all that the start of the hub depends on -/
def readSurroundings (arguments : List String) : IO CommandLine.Surroundings := do
  let home := Config.home (← IO.getEnv "HOME") "/root"
  let read := (CommandLine.parse arguments).toOption.getD {}
  let source ← readSource (read.configPath home)
  pure { source := fun _ => source, environment := ← readEnvironment, home, isAddress := Address.isWritten,
         canListen := Address.canListen }

def console : SessionId := ⟨"console"⟩

def lineOf : Frame → String
  | .text e => e.text
  | .ping => "ping"
  | .pong _ => "pong"
  | .close => "close"

/-- what the client at the console has seen -/
def seen (v : Service Memory) : List Frame := ((v.connections.get? console).map Connection.seen).getD []

/-- a line of input without its end -/
def withoutEnd (line : String) : String := String.ofList (line.toList.filter fun c => c ≠ '\n' && c ≠ '\r')

/-- let as much time pass as has passed since a moment -/
def catchUp (p : Setup Memory) (v : Service Memory) (start : Nat) : IO (Service Memory) := do
  let t ← IO.monoNanosNow
  pure (v.advance p ⟨t - start - v.now⟩)

/-- serve the client at the console until it or the hub ends the connection -/
partial def serve (p : Setup Memory) (start : Nat) (v : Service Memory) : IO Unit := do
  let line ← (← IO.getStdin).getLine
  let late ← catchUp p v start
  let next := if line.isEmpty then late.vanish p console else (late.receive p console (.text (withoutEnd line))).1
  for f in (seen next).drop (seen v).length do
    IO.println (lineOf f)
  if !next.ended.contains console then serve p start next

def runHub (c : Config) : IO Unit := do
  let p := Setup.ofConfig c
  let start ← IO.monoNanosNow
  let present := (← Std.Time.Timestamp.now).toMillisecondsSinceUnixEpoch.val
  let target ← (← IO.getStdin).getLine
  let v : Service Memory := { hub := .start {} (Int64.ofInt present) true }
  match v.connect p console {} (Handshake.ofRequest (withoutEnd target) []) with
  | (v, .ok _) => serve p start v
  | (_, .error r) => IO.println r.body

def warn (warnings : List CommandLine.Warning) : IO Unit :=
  warnings.forM fun w => IO.eprintln w.message

def run (arguments : List String) : IO UInt32 := do
  let outcome := CommandLine.launch (← readSurroundings arguments) arguments
  match outcome with
  | .usage e => IO.eprint e.text
  | .failed f warnings =>
    warn warnings
    IO.eprint (f.text ++ f.causesText)
  | .ready c warnings =>
    warn warnings
    runHub c
  pure (UInt32.ofNat outcome.exitStatus)

end ErrandHub.Console

def main (arguments : List String) : IO UInt32 := ErrandHub.Console.run arguments
