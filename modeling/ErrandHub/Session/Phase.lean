/-
The life of a session: four phases in order. Envelopes are accepted in the first two, the open ones.
-/
namespace ErrandHub

inductive Phase where
  | connecting
  | active
  | draining
  | closed
  deriving DecidableEq, Repr

namespace Phase

def all : List Phase := [.connecting, .active, .draining, .closed]

def name : Phase → String
  | .connecting => "Connecting"
  | .active => "Active"
  | .draining => "Draining"
  | .closed => "Closed"

def rank : Phase → Nat
  | .connecting => 0
  | .active => 1
  | .draining => 2
  | .closed => 3

/-- whether a session in this phase accepts envelopes -/
def isOpen : Phase → Bool
  | .connecting | .active => true
  | .draining | .closed => false

end Phase
end ErrandHub
