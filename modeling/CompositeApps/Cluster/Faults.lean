import CompositeApps.Cluster.Store

/-!
A cluster that keeps a log of its calls and fails them on demand, each kind of call in the way in
which a server with that answer would.
-/

namespace CompositeApps

inductive Fault where
  /-- The call fails as if the server had answered with this status. -/
  | status (code : Nat)
  /-- The call does not come back. -/
  | abort
  deriving DecidableEq, Repr, Inhabited

structure FaultRule where
  verb : Verb
  kind : Kind
  fault : Fault
  deriving DecidableEq, Repr, Inhabited

structure LoggedCall where
  verb : Verb
  kind : Kind
  name : String
  deriving DecidableEq, Repr, Inhabited

namespace LoggedCall

def of (c : Call) : LoggedCall :=
  ⟨c.verb, c.key.kind, c.key.name⟩

def text (c : LoggedCall) : String :=
  c.verb.name ++ " " ++ c.kind.name ++ " " ++ c.name

end LoggedCall

def Fault.outcome (f : Fault) (verb : Verb) (kind : Kind) : Aborting Reply :=
  match f with
  | .status 409 => .ok (.error (.conflict
      ("injected " ++ verb.name ++ " conflict on " ++ kind.name)))
  | .status 404 => .ok (.error .notFound)
  | .status code => .ok (.error (.api code
      ("injected " ++ verb.name ++ " failure on " ++ kind.name)))
  | .abort => .error ⟨"injected " ++ verb.name ++ " panic on " ++ kind.name⟩

structure FaultyCluster where
  cluster : Cluster := {}
  rules : List FaultRule := []
  calls : List LoggedCall := []
  deriving DecidableEq, Inhabited

namespace FaultyCluster

/-- The fault of a call; of several rules for it the first one counts. -/
def faultOf? (s : FaultyCluster) (verb : Verb) (kind : Kind) : Option Fault :=
  (s.rules.find? fun r => r.verb = verb && r.kind = kind).map (·.fault)

def perform (c : Call) (s : FaultyCluster) : Aborting Reply × FaultyCluster :=
  let s := { s with calls := s.calls ++ [LoggedCall.of c] }
  match s.faultOf? c.verb c.key.kind with
  | some f => (f.outcome c.verb c.key.kind, s)
  | none =>
    let (reply, cluster) := s.cluster.perform c
    (.ok reply, { s with cluster })

def inject (s : FaultyCluster) (rule : FaultRule) : FaultyCluster :=
  { s with rules := s.rules ++ [rule] }

def withoutFaults (s : FaultyCluster) : FaultyCluster :=
  { s with rules := [] }

def withoutCalls (s : FaultyCluster) : FaultyCluster :=
  { s with calls := [] }

def writes (s : FaultyCluster) : List LoggedCall :=
  s.calls.filter (·.verb.isWrite)

def callsOf (s : FaultyCluster) (verb : Verb) (kind : Kind) : Nat :=
  (s.calls.filter fun c => c.verb = verb && c.kind = kind).length

end FaultyCluster

end CompositeApps
