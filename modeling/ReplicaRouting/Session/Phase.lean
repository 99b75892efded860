/-!
The phases of a session, told apart by the handles it holds.
-/

namespace ReplicaRouting

/-- The phase of a session. In `main` it stays on main for good, in `committedMain` only until a
replica has caught up. -/
inductive Phase where
  | notInitialised
  | replica
  | main
  | committedMain
  | closed
deriving DecidableEq, Repr

namespace Phase

def all : List Phase := [notInitialised, replica, main, committedMain, closed]

def name : Phase → String
  | notInitialised => "not_initialised"
  | replica => "replica"
  | main => "main"
  | committedMain => "committed_main"
  | closed => "closed"

def title : Phase → String
  | notInitialised => "NotInitialised"
  | replica => "Replica"
  | main => "Main"
  | committedMain => "CommittedMain"
  | closed => "Closed"

def ofName? (name : String) : Option Phase := all.find? (·.name == name)

def holdsMain : Phase → Bool
  | main | committedMain => true
  | _ => false

end Phase

end ReplicaRouting
