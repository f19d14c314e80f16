/-
What can be configured.

A configuration holds the addresses and credentials of the hub, the limits of its sessions, its store and its
notices. `clamped` makes the hub ping well inside the read deadline, as idle sessions would otherwise be given
up.
-/
import ErrandHub.Credential.Verifier
import ErrandHub.Session.Settings

namespace ErrandHub

/-- addresses and credentials -/
structure ServerSettings where
  bind : String := "127.0.0.1:18400"
  adminBind : Option String := none
  metricsBind : Option String := none
  verifier : Verifier := {}
  deriving DecidableEq

/-- what becomes of messages -/
structure PersistenceSettings where
  enabled : Bool := false
  databaseUrl : Option String := none
  deriving DecidableEq

/-- who is told of messages while away -/
structure NotifySettings where
  enabled : Bool := false
  staff : List Identity := []
  deriving DecidableEq

structure Config where
  server : ServerSettings := {}
  session : SessionSettings := {}
  /-- requests that may wait for the registry -/
  commandQueueCapacity : UInt64 := 1024
  persistence : PersistenceSettings := {}
  notify : NotifySettings := {}
  deriving DecidableEq

namespace SessionSettings

/-- whether the hub would not ping inside the read deadline -/
def pingsTooLate (s : SessionSettings) : Bool := s.readDeadline.nanos ≤ s.pingInterval.nanos

/-- settings under which the hub pings inside the read deadline -/
def clamped (s : SessionSettings) : SessionSettings :=
  if s.pingsTooLate then { s with pingInterval := s.readDeadline.half } else s

end SessionSettings
end ErrandHub
