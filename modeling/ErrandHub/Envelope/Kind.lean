/-
The kinds of envelope.

Every envelope carries a kind by name. Clients may spell it in any ASCII case, with dashes for
underscores, and by a few shorter names. One kind, the notice that a room was opened, is the hub's
own: no spelling of it is accepted from a client.
-/
import ErrandHub.Text.Basic

namespace ErrandHub

/-- what an envelope is about -/
inductive Kind where
  | message
  | typingStart
  | typingStop
  | joinRoom
  | leaveRoom
  | ping
  | pong
  | roomOpened
  deriving DecidableEq, Repr

namespace Kind

def all : List Kind :=
  [.message, .typingStart, .typingStop, .joinRoom, .leaveRoom, .ping, .pong, .roomOpened]

def name : Kind → String
  | .message => "message"
  | .typingStart => "typing_start"
  | .typingStop => "typing_stop"
  | .joinRoom => "join_room"
  | .leaveRoom => "leave_room"
  | .ping => "ping"
  | .pong => "pong"
  | .roomOpened => "room_opened"

/-- shorter names of older clients -/
def aliases : List (String × Kind) :=
  [("chat", .message), ("chat_message", .message), ("typing", .typingStart), ("join", .joinRoom),
    ("leave", .leaveRoom)]

def ofName? (s : String) : Option Kind := all.find? fun k => k.name == s

/-- whether a client may send this kind -/
def fromClient (k : Kind) : Bool := k ≠ .roomOpened

/-- one character of a spelling, folded to the way names are written -/
def foldChar (c : Char) : Char := if c = '-' then '_' else Text.lowerChar c

def fold (s : String) : String := String.ofList ((Text.trimChars s.toList).map foldChar)

/-- read a kind from any of its spellings -/
def parse? (s : String) : Option Kind := (ofName? (fold s)).orElse fun _ => aliases.lookup (fold s)

end Kind
end ErrandHub
