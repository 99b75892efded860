/-!
Decisions: the database an operation runs on, and why. A decision forced by an earlier one carries
the line of decisions that led to it, back to the first.
-/

namespace ReplicaRouting

/-- Why an operation runs where it runs. -/
inductive Reason where
  | readOperation
  | writeOperation
  | writingCall
  | readingCall
  | lock
  | highIsolation
  | mainReuse
  | replicaInconsistent
  | replicaUnavailable
  | circuitOpen
deriving DecidableEq, Repr

namespace Reason

def all : List Reason :=
  [readOperation, writeOperation, writingCall, readingCall, lock, highIsolation, mainReuse,
   replicaInconsistent, replicaUnavailable, circuitOpen]

def name : Reason → String
  | readOperation => "read_operation"
  | writeOperation => "write_operation"
  | writingCall => "rw_api_call"
  | readingCall => "ro_api_call"
  | lock => "lock"
  | highIsolation => "high_isolation_level"
  | mainReuse => "main_reuse"
  | replicaInconsistent => "replica_inconsistent"
  | replicaUnavailable => "replica_unavailable"
  | circuitOpen => "circuit_open"

def ofName? (name : String) : Option Reason := all.find? (·.name == name)

def runsOnMain : Reason → Bool
  | readOperation | readingCall => false
  | _ => true

/-- Whether the reason stands for a write, after which the session stays on main. -/
def pinsMain : Reason → Bool
  | writeOperation | writingCall | lock | circuitOpen => true
  | _ => false

end Reason

/-- What one decision says by itself: the statement, if there is one, and the reason. -/
structure Grounds where
  sql : Option String := none
  reason : Reason
deriving DecidableEq, Repr

/-- A decision with the grounds of the decisions that caused it, the nearest first. -/
structure Decision extends Grounds where
  causes : List Grounds := []
deriving DecidableEq, Repr

namespace Decision

def read (sql : String) : Decision := { sql := some sql, reason := .readOperation }

def write (sql : String) : Decision := { sql := some sql, reason := .writeOperation }

def withSql (decision : Decision) (sql : String) : Decision := { decision with sql := some sql }

def withReason (decision : Decision) (reason : Reason) : Decision :=
  { decision with reason := reason }

/-- The decision as a consequence of `cause`, which takes the place of any earlier cause. -/
def withCause (decision cause : Decision) : Decision :=
  { decision with causes := cause.toGrounds :: cause.causes }

def cause? (decision : Decision) : Option Decision :=
  match decision.causes with
  | [] => none
  | nearest :: earlier => some { toGrounds := nearest, causes := earlier }

def depth (decision : Decision) : Nat := decision.causes.length

/-- The first decision of the line. -/
def rootCause (decision : Decision) : Decision :=
  { toGrounds := decision.causes.getLast?.getD decision.toGrounds }

def runsOnMain (decision : Decision) : Bool := decision.reason.runsOnMain

def pinsMain (decision : Decision) : Bool := decision.reason.pinsMain

@[simp]
theorem runsOnMain_withReason (decision : Decision) (reason : Reason) :
    (decision.withReason reason).runsOnMain = reason.runsOnMain := rfl

@[simp]
theorem pinsMain_withReason (decision : Decision) (reason : Reason) :
    (decision.withReason reason).pinsMain = reason.pinsMain := rfl

end Decision

namespace Grounds

/-- The reason, then the statement in brackets. -/
def text (grounds : Grounds) : String :=
  match grounds.sql with
  | some sql => s!"{grounds.reason.name} [{sql}]"
  | none => grounds.reason.name

/-- The text of a line of decisions after the first: each stands in parentheses within the one
before. -/
def causesText : List Grounds → String
  | [] => ""
  | nearest :: earlier => " caused by (" ++ nearest.text ++ causesText earlier ++ ")"

end Grounds

/-- The grounds of the decision, followed by its causes. -/
def Decision.text (decision : Decision) : String :=
  decision.toGrounds.text ++ Grounds.causesText decision.causes

end ReplicaRouting
