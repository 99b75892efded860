/-!
Connections to the two kinds of database, the calls a session makes on them, and the handles by
which sessions pass them around.
-/

namespace ReplicaRouting

/-- The database a handle leads to. -/
inductive HandleKind where
  | main
  | replica
deriving DecidableEq, Repr

namespace HandleKind

def name : HandleKind → String
  | main => "main"
  | replica => "replica"

end HandleKind

/-- How strictly transactions are kept apart, from the weakest level to the strongest. -/
inductive Isolation where
  | none
  | readUncommitted
  | readCommitted
  | repeatableRead
  | serializable
deriving DecidableEq, Repr

namespace Isolation

def all : List Isolation := [none, readUncommitted, readCommitted, repeatableRead, serializable]

/-- The place of a level in the order of strength. -/
def strength : Isolation → Nat
  | none => 0
  | readUncommitted => 1
  | readCommitted => 2
  | repeatableRead => 3
  | serializable => 4

/-- Whether the level is stricter than read-committed, which no replica can honour. -/
def exceedsReadCommitted (level : Isolation) : Bool :=
  readCommitted.strength < level.strength

def name : Isolation → String
  | none => "none"
  | readUncommitted => "read_uncommitted"
  | readCommitted => "read_committed"
  | repeatableRead => "repeatable_read"
  | serializable => "serializable"

def title : Isolation → String
  | none => "None"
  | readUncommitted => "ReadUncommitted"
  | readCommitted => "ReadCommitted"
  | repeatableRead => "RepeatableRead"
  | serializable => "Serializable"

def ofName? (name : String) : Option Isolation := all.find? (·.name == name)

end Isolation

/-- A warning reported by a connection. -/
structure Warning where
  message : String
  code : Option String := none
deriving DecidableEq, Repr

namespace Warning

def text (warning : Warning) : String :=
  match warning.code with
  | some code => s!"[{code}] {warning.message}"
  | none => warning.message

end Warning

/-- The identity of a connection: two handles with the same one share a connection. -/
structure ConnectionId where
  index : Nat
deriving DecidableEq, Repr

/-- A connection together with the kind of database it is used for. -/
structure Handle where
  kind : HandleKind
  connection : ConnectionId
deriving DecidableEq, Repr

namespace Handle

def main (connection : ConnectionId) : Handle := ⟨.main, connection⟩

def replica (connection : ConnectionId) : Handle := ⟨.replica, connection⟩

end Handle

end ReplicaRouting
