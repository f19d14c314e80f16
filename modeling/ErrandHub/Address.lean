/-
Network addresses.

An address is a host by number and the number of a socket on it, with a colon between. A host is four numbers below
256 with dots between, or eight groups of hexadecimal digits in brackets, of which one run of zeros may be left out
and which the number of a zone may follow after a percent sign. A number of the first form has no spare zeros. A
listener opens on the loopback network, under its name or number, or on all networks at once.
-/
import ErrandHub.Text.Basic

namespace ErrandHub.Address

def cutAt (c : Char) : List Char → List (List Char)
  | [] => [[]]
  | x :: rest =>
    if x = c then [] :: cutAt c rest
    else
      match cutAt c rest with
      | [] => [[x]]
      | p :: parts => (x :: p) :: parts

/-- a number in decimal digits below a bound -/
def below? (bound : Nat) (s : List Char) : Option Nat := (Text.decimal? s).filter fun n => n < bound

/-- one of the four numbers of a host -/
def octet? (s : List Char) : Option Nat :=
  if 1 < s.length && s.head? = some '0' then none else if 3 < s.length then none else below? 256 s

def fourNumbers? (s : List Char) : Option (List Nat) :=
  let parts := cutAt '.' s
  if parts.length = 4 then parts.mapM octet? else none

/-- a group of at most four hexadecimal digits -/
def group? (s : List Char) : Option Nat :=
  if s.isEmpty || 4 < s.length then none else (s.mapM Text.hexDigit?).map (Text.ofDigits 16)

def groups? (s : List Char) : Option (List Nat) := if s.isEmpty then some [] else (cutAt ':' s).mapM group?

/-- groups with colons between them at the end of a host, where the last two may be written as four numbers -/
def lastGroups? (s : List Char) : Option (List Nat) :=
  let parts := cutAt ':' s
  match fourNumbers? (parts.getLast?.getD []) with
  | some [a, b, c, d] => (parts.dropLast.mapM group?).map fun gs => gs ++ [a * 256 + b, c * 256 + d]
  | _ => groups? s

def atDoubleColon : List Char → Option (List Char × List Char)
  | ':' :: ':' :: rest => some ([], rest)
  | c :: rest => (atDoubleColon rest).map fun p => (c :: p.1, p.2)
  | [] => none

def eightGroups? (s : List Char) : Option (List Nat) :=
  match atDoubleColon s with
  | none => (lastGroups? s).filter fun gs => gs.length = 8
  | some (before, after) =>
    match groups? before, lastGroups? after with
    | some bs, some as =>
      if bs.length + as.length < 8 then some (bs ++ List.replicate (8 - bs.length - as.length) 0 ++ as) else none
    | _, _ => none

/-- the eight groups of a host, the number of a zone aside -/
def zonedGroups? (s : List Char) : Option (List Nat) :=
  match s.dropWhile (· ≠ '%') with
  | [] => eightGroups? s
  | _ :: zone => if (below? UInt32.size zone).isSome then eightGroups? (s.takeWhile (· ≠ '%')) else none

def socket? (s : List Char) : Option Nat := below? 65536 s

/-- a host by number -/
inductive Host where
  | four (numbers : List Nat)
  | eight (groups : List Nat)
  deriving DecidableEq, Repr

/-- the host and the socket of an address -/
def parse? (s : String) : Option (Host × Nat) :=
  let cs := s.toList
  match cs with
  | '[' :: rest =>
    match rest.dropWhile (· ≠ ']') with
    | ']' :: ':' :: socket =>
      match zonedGroups? (rest.takeWhile (· ≠ ']')), socket? socket with
      | some gs, some n => some (.eight gs, n)
      | _, _ => none
    | _ => none
  | _ =>
    match cs.dropWhile (· ≠ ':') with
    | ':' :: socket =>
      match fourNumbers? (cs.takeWhile (· ≠ ':')), socket? socket with
      | some ns, some n => some (.four ns, n)
      | _, _ => none
    | _ => none

/-- whether the host of an address is written by number -/
def isWritten (s : String) : Bool := (parse? s).isSome

/-- whether a host is this one, whatever networks it is on -/
def Host.isHere : Host → Bool
  | .four ns => ns.head? = some 127 || ns.all (· = 0)
  | .eight gs => gs.dropLast.all (· = 0) && (gs.getLast?.elim false fun g => g ≤ 1)

def canListen (s : String) : Bool :=
  match parse? s with
  | some (host, _) => host.isHere
  | none =>
    match s.toList.reverse.span (· ≠ ':') with
    | (socket, ':' :: host) => host.reverse = "localhost".toList && (socket? socket.reverse).isSome
    | _ => false

end ErrandHub.Address
