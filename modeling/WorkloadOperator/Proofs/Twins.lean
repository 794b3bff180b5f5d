import WorkloadOperator.Pass.Reconcile
import WorkloadOperator.Pass.Step
import WorkloadOperator.Proofs.Children
import WorkloadOperator.Proofs.Providing

/-!
# Passes that are told the same

Two passes are twins if they ask the same and end in the same way as long as they are told
the same, where what a store has given to an object does not count.  Only a patch names what
a store has given, and that is the version of the Instance, so it differs between twins.

Every pass is a twin of itself (`twins_reconcile`).  So what it does depends on nothing else
that it is told, in particular not on versions that others have used up.
-/

namespace WorkloadOperator

open Naming Store

namespace Instance

/-- An Instance with another version. -/
def revised (version : Option String) (i : Instance) : Instance :=
  { i with metadata := { i.metadata with resourceVersion := version } }

/-- An Instance apart from its version. -/
def unversioned (i : Instance) : Instance := i.revised none

/-- Instances that are equal apart from their versions differ in nothing else. -/
theorem eq_revised {i j : Instance} (h : i.unversioned = j.unversioned) :
    ∃ version, j = i.revised version := by
  obtain ⟨m, spec, status⟩ := i
  obtain ⟨m', spec', status'⟩ := j
  cases m
  cases m'
  cases h
  exact ⟨_, rfl⟩

end Instance

/-- Whether a request patches an Instance. -/
def Request.isPatch (r : Request) : Bool := r.verb = .patch

/-- Two replies tell the same, apart from what stores have given to objects. -/
def Request.Similar : (r : Request) → r.Reply → r.Reply → Prop
  | .getInstance _, x, y => x.map Instance.unversioned = y.map Instance.unversioned
  | .get c _, x, y => x.map (bare c.kind) = y.map (bare c.kind)
  | .list c _ _, x, y => x.map (bare c.kind) = y.map (bare c.kind)
  | .listRuns _ _, x, y => x = y
  | .create _ _ _, _, _ | .delete _ _, _, _ | .patchFinalizers _ _ _, _, _
  | .patchStatus _ _ _, _, _ => True

namespace Pass

variable {ε δ α β α' β' : Type}

/-- Two results are related values, or the same error. -/
inductive Both (R : α → β → Prop) : Except ε α → Except ε β → Prop where
  | ok {a : α} {b : β} (h : R a b) : Both R (.ok a) (.ok b)
  | error (e : ε) : Both R (.error e) (.error e)

/-- Two passes that go the same way as long as they are told the same.  Their patches may
name different versions. -/
inductive Twins (R : α → β → Prop) : Pass ε α → Pass ε β → Prop where
  | done {a : α} {b : β} (h : R a b) : Twins R (.done a) (.done b)
  | fail (e : ε) : Twins R (.fail e) (.fail e)
  | poll {next : Bool → Pass ε α} {next' : Bool → Pass ε β}
      (h : ∀ cancelled, Twins R (next cancelled) (next' cancelled)) :
      Twins R (.poll next) (.poll next')
  | publish (e e' : Event) {p : Pass ε α} {p' : Pass ε β} (h : Twins R p p') :
      Twins R (.publish e p) (.publish e' p')
  | request (r : Request) (hr : r.isPatch = false) {next : r.Answer → Pass ε α}
      {next' : r.Answer → Pass ε β}
      (h : ∀ answer answer', Both r.Similar answer answer' →
        Twins R (next answer) (next' answer')) :
      Twins R (.request r next) (.request r next')
  | finalizers (k : Key) (version version' : Option String) (finalizers : List String)
      {next : Except Store.Error Unit → Pass ε α} {next' : Except Store.Error Unit → Pass ε β}
      (h : ∀ answer, Twins R (next answer) (next' answer)) :
      Twins R (.request (.patchFinalizers k version finalizers) next)
        (.request (.patchFinalizers k version' finalizers) next')
  | status (k : Key) (version version' : Option String) (patch : Json)
      {next : Except Store.Error Unit → Pass ε α} {next' : Except Store.Error Unit → Pass ε β}
      (h : ∀ answer, Twins R (next answer) (next' answer)) :
      Twins R (.request (.patchStatus k version patch) next)
        (.request (.patchStatus k version' patch) next')

variable {R : α → β → Prop} {S : α' → β' → Prop}

theorem Twins.resume {p : Pass ε α} {p' : Pass ε β} {f : Except ε α → Pass δ α'}
    {f' : Except ε β → Pass δ β'} (h : Twins R p p')
    (hok : ∀ a b, R a b → Twins S (f (.ok a)) (f' (.ok b)))
    (herror : ∀ e, Twins S (f (.error e)) (f' (.error e))) :
    Twins S (p.resume f) (p'.resume f') := by
  induction h with
  | done h => exact hok _ _ h
  | fail e => exact herror e
  | poll _ ih => exact .poll ih
  | publish e e' _ ih => exact .publish e e' ih
  | request r hr _ ih => exact .request r hr ih
  | finalizers k version version' names _ ih => exact .finalizers k version version' names ih
  | status k version version' patch _ ih => exact .status k version version' patch ih

theorem Twins.bind {p : Pass ε α} {p' : Pass ε β} {f : α → Pass ε α'} {f' : β → Pass ε β'}
    (h : Twins R p p') (hf : ∀ a b, R a b → Twins S (f a) (f' b)) :
    Twins S (p.bind f) (p'.bind f') := by
  rw [bind_eq_resume, bind_eq_resume]
  exact h.resume hf fun e => .fail e

theorem Twins.mapError {p : Pass ε α} {p' : Pass ε β} (h : Twins R p p') (g : ε → δ) :
    Twins R (p.mapError g) (p'.mapError g) := by
  rw [mapError_eq_resume, mapError_eq_resume]
  exact h.resume (fun _ _ hab => .done hab) fun e => .fail (g e)

theorem Twins.attempt {p : Pass ε α} {p' : Pass ε β} (h : Twins R p p') :
    Twins (ε := δ) (Both R) p.attempt p'.attempt := by
  rw [attempt_eq_resume, attempt_eq_resume]
  exact h.resume (fun _ _ hab => .done (.ok hab)) fun e => .done (.error e)

/-- Twins that are over have the same outcome. -/
theorem Twins.outcome?_eq {p p' : Pass ε α} (h : Twins Eq p p') : p.outcome? = p'.outcome? := by
  cases h with
  | done h => rw [h]
  | fail | poll | publish | request | finalizers | status => rfl

theorem twins_ask {r : Request} (hr : r.isPatch = false) : Twins r.Similar (ask r) (ask r) := by
  refine .request r hr fun answer answer' h => ?_
  cases h with
  | ok h => exact .done h
  | error e => exact .fail e

theorem twins_askStore {r : Request} (hr : r.isPatch = false) :
    Twins r.Similar (askStore r) (askStore r) :=
  (twins_ask hr).mapError _

theorem twins_checkpoint : Twins Eq checkpoint checkpoint := by
  refine .poll fun cancelled => ?_
  cases cancelled with
  | true => exact .fail _
  | false => exact .done rfl

theorem twins_discard (c : Child) (k : Key) : Twins Eq (discard c k) (discard c k) := by
  refine .request _ rfl fun answer answer' h => ?_
  have hsame : answer = answer' := by
    cases h <;> rfl
  subst hsame
  cases Store.Error.ignoreMissing answer with
  | ok reply => exact .done rfl
  | error e => exact .fail e

/-! ## Converging -/

variable {adapters : Config.Adapters} {o : Owner} {d : Channel.Declaration} {i j : Instance}

theorem twins_ensure {c : Child} {k : Key} {object : c.Object} {present : c.Object → α}
    {present' : c.Object → β} {created : Pass Store.Error α} {created' : Pass Store.Error β}
    {raced : α} {raced' : β}
    (hpresent : ∀ x y, bare c.kind x = bare c.kind y → R (present x) (present' y))
    (hcreated : Twins R created created') (hraced : R raced raced') :
    Twins R (ensure c k object present created raced)
      (ensure c k object present' created' raced') := by
  refine (twins_ask rfl).bind fun found found' hfound => ?_
  cases found with
  | none =>
    cases found' with
    | some y => cases hfound
    | none =>
      refine (twins_ask rfl).attempt.bind fun answer answer' h => ?_
      cases h with
      | ok h => exact hcreated
      | error e =>
        cases e with
        | alreadyExists what => exact .done hraced
        | notFound | conflict | unavailable | invalid => exact .fail _
  | some x =>
    cases found' with
    | none => cases hfound
    | some y => exact .done (hpresent x y (Option.some.inj hfound))

theorem twins_provideSession :
    Twins Eq (provideSession adapters i o d) (provideSession adapters j o d) := by
  rw [provideSession_eq, provideSession_eq]
  exact twins_ensure (fun _ _ _ => rfl) (.publish _ _ (.done rfl)) rfl

theorem twins_provideWorkload :
    Twins Eq (provideWorkload adapters i o d) (provideWorkload adapters j o d) := by
  rw [provideWorkload_eq, provideWorkload_eq]
  refine twins_ensure (fun x y h => ?_) (.publish _ _ (.done rfl)) rfl
  -- how a workload is doing is not given to it by the store
  calc
    linkOf x = linkOf (bare .deployment x) := rfl
    _ = linkOf (bare .deployment y) := by rw [h]
    _ = linkOf y := rfl

theorem twins_serveChannel :
    Twins Eq (serveChannel adapters i o d) (serveChannel adapters j o d) := by
  unfold serveChannel
  split
  · exact twins_provideSession.bind fun _ _ _ => twins_provideWorkload
  · exact twins_provideWorkload

theorem twins_serveEach (ds : List Channel.Declaration) :
    Twins Eq (serveEach adapters i o ds) (serveEach adapters j o ds) := by
  induction ds with
  | nil => exact .done rfl
  | cons d ds ih =>
    refine twins_checkpoint.bind fun _ _ _ => ?_
    refine (twins_serveChannel.mapError _).bind fun link link' hlink => ?_
    refine ih.bind fun reports reports' hreports => .done ?_
    rw [hlink, hreports]

theorem twins_provideMemory (h : i.wantsMemory = j.wantsMemory) :
    Twins (ε := ε) Eq (provideMemory i o) (provideMemory j o) := by
  unfold provideMemory
  rw [h]
  split
  · have created : Twins Eq (createMemory o) (createMemory o) := by
      rw [createMemory_eq]
      exact twins_ensure (fun _ _ _ => rfl) (.done rfl) rfl
    refine created.attempt.bind fun answer answer' h => ?_
    cases h with
    | error e => exact .done rfl
    | @ok created _ h =>
      subst h
      cases created with
      | true => exact .publish _ _ (.done rfl)
      | false => exact .done rfl
  · exact .done rfl

theorem twins_countRuns (ns owner : String) :
    Twins Eq (countRuns ns owner) (countRuns ns owner) := by
  refine (twins_ask rfl).bind fun runs runs' h => .done ?_
  have hruns : runs = runs' := h
  rw [hruns]

variable {version : Option String}

theorem twins_recordStatus (ns : String) (i : Instance) (desired : Instance.Status) :
    Twins Eq (recordStatus ns i desired) (recordStatus ns (i.revised version) desired) := by
  unfold recordStatus
  rw [show (i.revised version).status = i.status from rfl]
  cases Instance.Status.diff i.status desired with
  | none => exact .done rfl
  | some patch =>
    refine .status _ _ _ patch fun answer => ?_
    cases answer with
    | ok reply => exact .done rfl
    | error e => exact .fail _

theorem twins_recordFailure (ns : String) (i : Instance) (cause : Pass.Error) :
    Twins (ε := ε) Eq (recordFailure ns i cause) (recordFailure ns (i.revised version) cause) := by
  simp only [recordFailure, Instance.revised]
  split
  · exact .done rfl
  · refine .status _ _ _ _ fun answer => ?_
    cases answer with
    | ok reply => exact .publish _ _ (.done rfl)
    | error e => exact .publish _ _ (.done rfl)

theorem twins_converge (cfg : Config) (ns : String) (i : Instance) :
    Twins Eq (converge cfg ns i) (converge cfg ns (i.revised version)) := by
  unfold converge
  simp only [Instance.revised]
  split
  · exact .fail _
  · next uid huid =>
    refine (twins_serveEach i.spec.channels).attempt.bind fun answer answer' h => ?_
    cases h with
    | error e =>
      cases e with
      | cancelled => exact .fail _
      | store | channel | invariant =>
        exact (twins_recordFailure ns i _).bind fun _ _ _ => .fail _
    | @ok channels _ h =>
      subst h
      refine twins_checkpoint.bind fun _ _ _ => ?_
      refine (twins_provideMemory rfl).bind fun _ _ _ => ?_
      refine ((twins_countRuns ns i.name).mapError _).bind fun activeRuns _ h => ?_
      subst h
      refine twins_checkpoint.bind fun _ _ _ => ?_
      exact (twins_recordStatus ns i _).bind fun _ _ _ => .done rfl

/-! ## Tearing down -/

/-- A store gives no name to an object. -/
theorem displayName_eq_of_bare {κ : Kind} {x y : κ.Object} (h : bare κ x = bare κ y) :
    κ.nameOf x = κ.nameOf y := by
  calc
    κ.nameOf x = κ.nameOf (bare κ x) := by simp [Kind.nameOf, bare, Metadata.displayName]
    _ = κ.nameOf (bare κ y) := by rw [h]
    _ = κ.nameOf y := by simp [Kind.nameOf, bare, Metadata.displayName]

theorem twins_deleteWorkloads (ns : String) {ds ds' : List Deployment}
    (h : ds.map (bare .deployment) = ds'.map (bare .deployment)) :
    Twins Eq (deleteWorkloads ns ds) (deleteWorkloads ns ds') := by
  induction ds generalizing ds' with
  | nil =>
    cases ds' with
    | nil => exact .done rfl
    | cons d' ds' => cases h
  | cons d ds ih =>
    cases ds' with
    | nil => cases h
    | cons d' ds' =>
      obtain ⟨hd, hds⟩ := List.cons.inj h
      have hname : d.metadata.displayName = d'.metadata.displayName :=
        displayName_eq_of_bare (κ := .deployment) hd
      refine twins_checkpoint.bind fun _ _ _ => ?_
      rw [hname]
      exact ((twins_discard _ _).mapError _).bind fun _ _ _ => ih hds

theorem twins_deleteSessions (ns : String) {cs cs' : List VolumeClaim}
    (h : cs.map (bare .volumeClaim) = cs'.map (bare .volumeClaim)) :
    Twins (ε := ε) Eq (deleteSessions ns cs) (deleteSessions ns cs') := by
  induction cs generalizing cs' with
  | nil =>
    cases cs' with
    | nil => exact .done rfl
    | cons c' cs' => cases h
  | cons c cs ih =>
    cases cs' with
    | nil => cases h
    | cons c' cs' =>
      obtain ⟨hc, hcs⟩ := List.cons.inj h
      have hname : c.metadata.displayName = c'.metadata.displayName :=
        displayName_eq_of_bare (κ := .volumeClaim) hc
      unfold deleteSessions
      rw [hname]
      exact (twins_discard _ _).attempt.bind fun _ _ _ => ih hcs

theorem twins_deleteStores (ns name selector : String) :
    Twins (ε := ε) Eq (deleteStores ns name selector) (deleteStores ns name selector) := by
  have memory : Twins (ε := ε) Eq (((discard .configMap ⟨ns, memoryStore name⟩).attempt).bind
      fun _ => .done ()) (((discard .configMap ⟨ns, memoryStore name⟩).attempt).bind
      fun _ => .done ()) :=
    (twins_discard _ _).attempt.bind fun _ _ _ => .done rfl
  refine (twins_ask rfl).attempt.bind fun answer answer' h => ?_
  cases h with
  | ok h => exact (twins_deleteSessions ns h).bind fun _ _ _ => memory
  | error e => exact memory

theorem twins_unmark (ns : String) (i : Instance) :
    Twins Eq (unmark ns i) (unmark ns (i.revised version)) := by
  refine .finalizers _ _ _ _ fun answer => ?_
  split
  · exact .done rfl
  · exact .fail _

theorem twins_teardown (intervals : Config.Intervals) (ns : String) (i : Instance) :
    Twins Eq (teardown intervals ns i) (teardown intervals ns (i.revised version)) := by
  refine (twins_askStore rfl).bind fun workloads workloads' h => ?_
  refine (twins_deleteWorkloads ns h).bind fun _ _ _ => ?_
  refine (twins_askStore rfl).bind fun remaining remaining' h => ?_
  have hnone : remaining = [] ↔ remaining' = [] := by
    rw [← List.map_eq_nil_iff (f := bare .deployment), h, List.map_eq_nil_iff]
  simp only [ne_eq, hnone]
  split
  · exact .done rfl
  · refine (twins_deleteStores ns i.name _).bind fun _ _ _ => ?_
    simp only [show (i.revised version).isMarked = i.isMarked from rfl]
    split
    · exact .done rfl
    · refine twins_checkpoint.bind fun _ _ _ => .publish _ _ ?_
      exact (twins_unmark ns i).bind fun _ _ _ => .done rfl

/-! ## Whole passes -/

theorem twins_mark (ns : String) (i : Instance) :
    Twins Eq (mark ns i) (mark ns (i.revised version)) := by
  refine .finalizers _ _ _ _ fun answer => ?_
  cases answer with
  | ok reply => exact .done rfl
  | error e => exact .fail _

theorem twins_advance (cfg : Config) (ns : String) (i : Instance) :
    Twins Eq (advance cfg ns i) (advance cfg ns (i.revised version)) := by
  unfold advance
  simp only [show (i.revised version).isDeleting = i.isDeleting from rfl]
  split
  · exact twins_teardown _ ns i
  · exact twins_converge cfg ns i

/-- What is done with an Instance that was read does not depend on its version. -/
theorem twins_reading {f : Option Instance → Pass Pass.Error Action} {key : Key}
    (hnone : f none = .done .awaitChange)
    (hsome : ∀ i version, Twins Eq (f (some i)) (f (some (i.revised version)))) :
    Twins Eq ((askStore (.getInstance key)).bind f) ((askStore (.getInstance key)).bind f) := by
  refine (twins_askStore rfl).bind fun found found' h => ?_
  cases found with
  | none =>
    cases found' with
    | none => rw [hnone]; exact .done rfl
    | some j => cases h
  | some i =>
    cases found' with
    | none => cases h
    | some j =>
      obtain ⟨version, rfl⟩ := Instance.eq_revised (Option.some.inj h)
      exact hsome i version

/-- A pass depends on nothing that stores have given to objects. -/
theorem twins_reconcile (cfg : Config) (key : Key) :
    Twins Eq (reconcile cfg key) (reconcile cfg key) := by
  refine twins_reading rfl fun i version => ?_
  simp only [show (i.revised version).stage = i.stage from rfl]
  cases i.stage with
  | held => exact twins_teardown _ _ i
  | released => exact twins_teardown _ _ i
  | alive => exact twins_converge cfg _ i
  | unmarked =>
    refine twins_checkpoint.bind fun _ _ _ => ?_
    refine (twins_mark _ i).bind fun _ _ _ => ?_
    exact twins_reading rfl fun fresh version => twins_advance cfg _ fresh

end Pass

end WorkloadOperator
