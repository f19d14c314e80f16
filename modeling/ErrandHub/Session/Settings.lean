/-
Limits and timing of one session.

Spans of time are counted in nanoseconds. The longest one is 2^64 seconds less a nanosecond: products that
would pass it stop there.

A session reads frame after frame and gives each read up after a while. A frame starts the count of reads given
up anew; once as many in a row were given up as the session has patience for, the session is given up itself.
`livenessWindow` is the longest silence that comes of it. The socket takes frames up to twice the size of a
message, so that a message a little too long costs the sender that message and not the connection.
-/
namespace ErrandHub

/-! ## Spans of time -/

structure Duration where
  nanos : Nat
  deriving DecidableEq, Repr

namespace Duration

def longest : Duration := ⟨UInt64.size * 1000000000 - 1⟩

def ofMillis (n : UInt64) : Duration := ⟨n.toNat * 1000000⟩

def ofSecs (n : Nat) : Duration := ⟨n * 1000000000⟩

/-- so many times a span, at most the longest one -/
def times (d : Duration) (n : Nat) : Duration := ⟨min (d.nanos * n) longest.nanos⟩

/-- half of a span, a spare nanosecond dropped -/
def half (d : Duration) : Duration := ⟨d.nanos / 2⟩

def micros (d : Duration) : Nat := d.nanos / 1000

end Duration

/-! ## Settings -/

/-- limits and timing of a session -/
structure SessionSettings where
  /-- envelopes that may wait in the outbox -/
  outboxCapacity : UInt64 := 256
  /-- time between two pings of the hub -/
  pingInterval : Duration := .ofSecs 20
  /-- silence after which a read is given up -/
  readDeadline : Duration := .ofSecs 30
  /-- reads given up in a row before the session is -/
  maxMissedPongs : UInt32 := 2
  /-- time that one write may take -/
  writeTimeout : Duration := .ofSecs 5
  /-- bytes of the longest text frame that is handled -/
  maxMessageBytes : UInt64 := 65536
  /-- time that the upgrade may take -/
  handshakeTimeout : Duration := .ofSecs 10
  deriving DecidableEq, Repr

namespace SessionSettings

/-- how many reads in a row are given up before the session is -/
def patience (s : SessionSettings) : Nat := max 1 s.maxMissedPongs.toNat

/-- the longest silence before a session is given up -/
def livenessWindow (s : SessionSettings) : Duration := s.readDeadline.times s.patience

/-- bytes of the longest frame that the socket takes -/
def socketFrameLimit (s : SessionSettings) : UInt64 :=
  UInt64.ofNat (min (s.maxMessageBytes.toNat * 2) (UInt64.size - 1))

end SessionSettings

/-! ## Silence -/

/-- what a read comes to -/
inductive ReadOutcome where
  | frame
  | expired
  deriving DecidableEq, Repr

namespace Liveness

/-- how many reads in a row are given up, after one more read; none if the session is given up -/
def next? (patience missed : Nat) : ReadOutcome → Option Nat
  | .frame => some 0
  | .expired => if patience ≤ missed + 1 then none else some (missed + 1)

/-- how many reads in a row are given up, after all these reads; none if the session is given up on the way -/
def after? (patience : Nat) (outcomes : List ReadOutcome) : Option Nat := outcomes.foldlM (next? patience) 0

end Liveness
end ErrandHub
