import WorkloadOperator.Api.Cluster
import WorkloadOperator.Controller.Agenda
import WorkloadOperator.Controller.Notice
import WorkloadOperator.Pass.Reconcile
import WorkloadOperator.Pass.Round

/-!
# The controller

The controller looks at every Instance that it knows: at once when it starts,
again after the time that the last pass asked for, and at once after a notice.
Several reasons to look at an Instance at one time make one pass, and what a pass
asks for replaces what was planned before.

Time is counted in seconds and passes only in `Controller.run` and
`Controller.wait`.  A pass takes no time, and passes of one time work in rounds.
What comes due at the very end of a run is left to the next one, and so are
notices.  No Instance is looked at twice in one second without a notice.

Once the operator is shut down no pass starts any more, and a controller that has
not started by then never does.  The passes that are under way come to their end,
and what they ask for after the round in which the shutdown came is not planned.

An agenda keeps the plans.  A plan that is too far ahead of it breaks the
controller, and so does an object without a name.  With it all passes break off.
-/

namespace WorkloadOperator

namespace Controller

/-- How far the controller has come. -/
inductive Stage where
  /-- It has not run yet. -/
  | idle
  /-- It has opened its watches. -/
  | running
  /-- It has ended after a shutdown. -/
  | stopped
  /-- It has broken down. -/
  | broken
  deriving DecidableEq, Repr

end Controller

/-- A controller for the Instances of a cluster in memory. -/
structure Controller where
  /-- The seconds that have passed. -/
  now : Nat := 0
  stage : Controller.Stage := .idle
  /-- When it started. -/
  since : Nat := 0
  /-- What is watched, by path and selector. -/
  watching : List (String × String) := []
  /-- The Instances it knows. -/
  known : List Controller.Subject := []
  /-- The notices it has not taken yet. -/
  inbox : List Controller.Notice := []
  /-- When an Instance is looked at again, in ticks from the start. -/
  agenda : Controller.Agenda Controller.Subject := {}
  cluster : Api.Cluster
  /-- What has passed between operator and cluster, with the second. -/
  log : List (Nat × Api.Exchange) := []

namespace Controller

/-- A pass under way. -/
abbrev Task := Pass.Task Subject Pass.Error Action

/-- What a pass has come to. -/
abbrev Outcome := Pass.Outcome Subject Pass.Error Action

/-- Whether the operator is shut down. -/
def isShutDown (c : Controller) : Bool := c.cluster.rehearsal.cancelled

/-- Shut the operator down. -/
def shutDown (c : Controller) : Controller :=
  { c with cluster := { c.cluster with
      rehearsal := { c.cluster.rehearsal with cancelled := true } } }

/-- Whether passes may start: the controller is running, and no shutdown was
asked for. -/
def isActive (c : Controller) : Bool := c.stage = .running && !c.isShutDown

/-- Break down. -/
def breakDown (c : Controller) : Controller := { c with stage := .broken }

/-! ## Planning -/

/-- The ticks in a second. -/
def ticks : Nat := 1000

/-- The tick that begins with the present second. -/
def tick (c : Controller) : Nat := ticks * (c.now - c.since)

/-- Plan to look at an Instance, which replaces an earlier plan. -/
def plan (s : Subject) (tick : Nat) (c : Controller) : Controller :=
  match c.agenda.put? s tick with
  | some agenda => { c with agenda }
  | none => c.breakDown

/-- Plan to look at some Instances, one after the other. -/
def planAll (tick : Nat) (ss : List Subject) (c : Controller) : Controller :=
  ss.foldl (fun c s => c.plan s tick) c

/-- What a pass asks for. -/
def wanted (cfg : Config) : Except Pass.Error Action → Action
  | .ok a => a
  | .error e => e.action cfg.intervals.onError

/-- Plan what a pass has asked for. -/
def follow (cfg : Config) (tick : Nat) (c : Controller) (o : Outcome) : Controller :=
  match wanted cfg o.result with
  | .awaitChange => c
  | .requeue seconds => c.plan o.subject (tick + ticks * max seconds 1)

/-! ## Watching -/

/-- Open a watch on children.  What is there is listed before the watch stands
and once more when it does, and a failure to list is passed over. -/
def openWatch (r : Request) (s : Store) : Store := (((s.serve r).2).serve r).2

/-- Start: open the watches, and plan to look at every Instance. -/
def start (ns : Option String) (c : Controller) : Controller :=
  let store := c.cluster.rehearsal.store
  let found := store.instances.entries.filter fun e => ns.all (· = e.1.ns)
  let known := found.map fun e => (⟨some e.1.ns, e.1.name⟩ : Subject)
  let store := openWatch (.list .deployment (ns.getD "") (Watched.selector .workloads)) store
  let store := openWatch (.listRuns (ns.getD "") (Watched.selector .runs)) store
  let c : Controller := { c with
    stage := .running
    since := c.now
    watching := Watched.all.map fun w => (w.path ns, w.selector)
    known
    cluster := { c.cluster with rehearsal := { c.cluster.rehearsal with store } } }
  if found.any (·.2.metadata.name.isNone) then c.breakDown
  -- Of what is overdue the last goes first.
  else c.planAll 0 known.reverse

/-- How many watches are open for what a notice is about. -/
def audience (c : Controller) : Nat := if c.stage = .running then 1 else 0

/-- Keep a notice, if the watches are open. -/
def notice (n : Notice) (c : Controller) : Controller :=
  if c.stage = .running then { c with inbox := c.inbox ++ [n] } else c

/-- Take the notices. -/
def hear (tick : Nat) (c : Controller) : Controller :=
  if c.inbox.any Notice.isNameless then c.breakDown
  else
    { c with
      known := c.inbox.foldl (fun known (n : Notice) => n.learn known) c.known
      inbox := [] }.planAll tick (subjectsOf c.inbox)

/-! ## Passes -/

/-- The pass for an Instance, if it is known.  There is none for an Instance
without a namespace, which is not as it has to be. -/
def task? (cfg : Config) (known : List Subject) (s : Subject) : Option Task :=
  match s.ns with
  | none => none
  | some ns =>
    if s ∈ known then some ⟨s, Pass.reconcile cfg ⟨ns, s.name⟩⟩ else none

/-- What passes run against. -/
def surroundings (cfg : Config) : Pass.Surroundings Api.Cluster :=
  Api.Cluster.surroundings ⟨cfg.fieldManager⟩

/-- What passes send. -/
def outbound (cfg : Config) : Pass.Outbound Api.Cluster := Api.Cluster.outbound ⟨cfg.fieldManager⟩

/-- Move the traffic into the log. -/
def logged (tick : Nat) (cluster : Api.Cluster) (c : Controller) : Controller :=
  { c with
    cluster := { cluster with traffic := [] }
    log := c.log ++ cluster.traffic.map fun x => (c.since + tick / ticks, x) }

/-- Let the passes under way work in rounds until they are over. -/
def work (cfg : Config) (tick : Nat) (ts : List Task) (_busy : Pass.Busy ts) (c : Controller) :
    Controller :=
  if _h : ts = [] then c
  else
    let r := Pass.round (surroundings cfg) (outbound cfg) ts c.cluster
    let next := c.logged tick r.2
    let next := if c.isShutDown then next else r.1.ended.foldl (follow cfg tick) next
    if next.stage = .broken then next
    else work cfg tick r.1.going (Pass.busy_round _ _ _ _) next
termination_by ts
decreasing_by exact Pass.shorter_round _ _ _busy _h _

/-- Look at all Instances that are due in a tick. -/
def attend (cfg : Config) (tick : Nat) (c : Controller) : Controller :=
  let (due, agenda) := c.agenda.takeDue tick
  let c := { c with agenda }
  let r := Pass.begin (surroundings cfg) (outbound cfg) (due.filterMap (task? cfg c.known))
    c.cluster
  let c := r.1.ended.foldl (follow cfg tick) (c.logged tick r.2)
  if c.stage = .broken then c else work cfg tick r.1.going (Pass.busy_begin _ _ _ _) c

/-- All passes from a tick on, before the tick `finish`. -/
def attendUntil (cfg : Config) (finish tick : Nat) (c : Controller) : Controller :=
  let c := c.attend cfg tick
  match c.agenda.alarm with
  | none => c
  | some alarm =>
    let next := max alarm (tick + 1)
    if c.isActive ∧ next < finish then attendUntil cfg finish next c else c
termination_by finish - tick

/-- How long a wait lasts that is too long to be counted, in seconds. -/
def longWait : Nat := 30 * 365 * 86400

/-- How many seconds a wait lasts. -/
def lasting (seconds : Nat) : Nat :=
  if (seconds : Int) ≤ Int64.maxValue.toInt then seconds else longWait

/-- Let some seconds pass in which the controller does nothing. -/
def wait (seconds : Nat) (c : Controller) : Controller := { c with now := c.now + lasting seconds }

/-- Let some seconds pass.  A controller that has not started does so, unless it
is too late for that. -/
def run (cfg : Config) (seconds : Nat) (c : Controller) : Controller :=
  if seconds = 0 then c
  else
    let c := if c.stage = .idle ∧ !c.isShutDown then c.start cfg.watchNamespace else c
    let c := if c.isActive then c.hear c.tick else c
    let c :=
      if c.isActive then attendUntil cfg (c.tick + ticks * lasting seconds) c.tick c else c
    let c := if c.stage = .running ∧ c.isShutDown then { c with stage := .stopped } else c
    c.wait seconds

end Controller

end WorkloadOperator
