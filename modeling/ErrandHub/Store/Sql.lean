/-
Stores in a database.

A database URL names a kind of database by its scheme. Of the three kinds only files are within reach: a file
must be there unless the URL asks for it to be created, and what is opened for reading only takes no message.
Connecting creates the table of messages where it is missing. A message is a row whose number is its place in
the table, so numbers start again when the table is dropped.
-/
import ErrandHub.Credential.Handshake
import ErrandHub.Store.Memory
import ErrandHub.Table

namespace ErrandHub.Sql

/-- what a store is doing when its database fails -/
inductive Task where
  | connectSqlite
  | connectPostgres
  | connectMysql
  | createTable
  | insertRow
  deriving DecidableEq, Repr

inductive StoreError where
  | unsupportedScheme (scheme : String)
  | database (task : Task)
  deriving DecidableEq, Repr

def Task.text : Task → String
  | .connectSqlite => "connect sqlite"
  | .connectPostgres => "connect postgres"
  | .connectMysql => "connect mysql"
  | .createTable => "create chat_messages (sqlite)"
  | .insertRow => "insert chat_messages (sqlite)"

def StoreError.message : StoreError → String
  | .unsupportedScheme s => "unsupported database_url scheme: " ++ s
  | .database t => t.text

/-- a database: the rows of its table of messages, if it has the table -/
structure Database where
  chat : Option (List StoredMessage) := none

/-- how a database file is opened -/
structure Options where
  path : String
  /-- kept in memory, and gone with the connection -/
  memory : Bool := false
  readOnly : Bool := false
  create : Bool := false
  deriving DecidableEq, Repr

namespace Options

def apply (o : Options) (p : String × String) : Option Options :=
  match p with
  | ("mode", "ro") => some { o with readOnly := true }
  | ("mode", "rw") => some o
  | ("mode", "rwc") => some { o with create := true }
  | ("mode", "memory") => some { o with memory := true }
  | ("cache", "private") | ("cache", "shared") => some o
  | ("immutable", "true") | ("immutable", "1") => some { o with readOnly := true }
  | ("immutable", "false") | ("immutable", "0") => some o
  | ("vfs", "unix") => some o
  | _ => none

/-- drop a word at the front as often as it stands there, in so many steps at most -/
def dropWord (word : List Char) : (fuel : Nat) → List Char → List Char
  | 0, s => s
  | fuel + 1, s => ((afterWord? word s).map (dropWord word fuel)).getD s

/-- read how to open a file from a URL -/
def ofUrl? (url : String) : Option Options :=
  let cs := url.toList
  let rest := dropWord "sqlite:".toList cs.length (dropWord "sqlite://".toList cs.length cs)
  let name := rest.takeWhile (· ≠ '?')
  let query := (rest.dropWhile (· ≠ '?')).drop 1
  let file : Option Options :=
    if name.isEmpty || name = ":memory:".toList then some { path := "", memory := true }
    else (Utf8.decode? (Query.unescapePercent [] (Utf8.encode name))).map fun path => { path := String.ofList path }
  file.bind fun o => (Query.pairs (Utf8.encode query)).foldlM apply o

end Options

/-- the databases on disk by path -/
abbrev Disk := Table String Database

/-- a store that is connected -/
structure Connection where
  options : Options
  /-- the database of a store in memory -/
  own : Database := {}

namespace Connection

def database? (c : Connection) (disk : Disk) : Option Database :=
  if c.options.memory then some c.own else disk.get? c.options.path

/-- put a changed database in its place -/
def update (c : Connection) (disk : Disk) (d : Database) : Connection × Disk :=
  if c.options.memory then ({ c with own := d }, disk) else (c, disk.insert c.options.path d)

/-- create the table of messages where it is missing -/
def ensureTable (c : Connection) (disk : Disk) (d : Database) : Except StoreError (Connection × Disk) :=
  match d.chat with
  | some _ => .ok (c.update disk d)
  | none => if c.options.readOnly then .error (.database .createTable) else .ok (c.update disk ⟨some []⟩)

def openFile (disk : Disk) (o : Options) : Except StoreError (Connection × Disk) :=
  let c : Connection := { options := o }
  match c.database? disk with
  | some d => c.ensureTable disk d
  | none => if o.create && !o.readOnly then c.ensureTable disk {} else .error (.database .connectSqlite)

def connect (disk : Disk) (url : String) : Except StoreError (Connection × Disk) :=
  let starts (scheme : String) := (afterWord? scheme.toList url.toList).isSome
  if starts "sqlite:" then
    match Options.ofUrl? url with
    | some o => openFile disk o
    | none => .error (.database .connectSqlite)
  else if starts "postgres:" || starts "postgresql:" then .error (.database .connectPostgres)
  else if starts "mysql:" || starts "mariadb:" then .error (.database .connectMysql)
  else .error (.unsupportedScheme (String.ofList (url.toList.takeWhile (· ≠ ':'))))

def persist (c : Connection) (disk : Disk) (m : StoredMessage) : Except StoreError (Connection × Disk) :=
  match (c.database? disk).bind Database.chat with
  | some rows =>
    if c.options.readOnly then .error (.database .insertRow) else .ok (c.update disk ⟨some (rows ++ [m])⟩)
  | none => .error (.database .insertRow)

end Connection

namespace Disk

/-- drop the table of messages from a file, which is created if it is not there -/
def dropTable (disk : Disk) (path : String) : Disk := disk.insert path {}

/-- create a file if it is not there -/
def touch (disk : Disk) (path : String) : Disk := if disk.contains path then disk else disk.insert path {}

/-- the rows of a file with their numbers -/
def rows (disk : Disk) (path : String) : List (Nat × StoredMessage) :=
  (((disk.get? path).bind Database.chat).getD []).zipIdx.map fun mi => (mi.2 + 1, mi.1)

end Disk
end ErrandHub.Sql
