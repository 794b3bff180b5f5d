import WorkloadOperator.Proofs.Asking
import WorkloadOperator.Proofs.Company
import WorkloadOperator.Proofs.Opening
import WorkloadOperator.Proofs.Tables

/-!
# The course of a pass

A pass opens with the reading of its Instance, which may be marked and read again.  Then the
pass does what goes with the Instance that it has read last, and it does not read it any more.

`Next` says which request may come after which log, and `course` that all calls of a pass
come so, whatever others do and whenever the pass is cancelled.  In particular the pass
looks directly before each weighty request whether it was cancelled.
-/

namespace WorkloadOperator

open Request

namespace Pass

/-! ## Logs -/

/-- A call reads the Instance under a key. -/
structure Call.Reads (c : Call) (key : Key) (i : Instance) : Prop where
  request : c.request = .getInstance key
  found : (c.met.serve (.getInstance key)).1 = .ok (some i)

theorem Call.Reads.find? {c : Call} {key : Key} {i : Instance} (h : c.Reads key i) :
    c.met.find? .inst key = some i :=
  Store.find?_of_read h.found

/-- A call puts the marker on an Instance that was read. -/
structure Call.Marks (c : Call) (ns : String) (i : Instance) : Prop where
  unmarked : i.stage = .unmarked
  request : c.request = .patchFinalizers ⟨ns, i.name⟩ i.metadata.resourceVersion
    (i.metadata.finalizerList ++ [Instance.marker])
  accepted : c.met.Accepts c.request

/-- What a pass has done before it reads the Instance that it goes on with. -/
inductive Prelude (key : Key) (i : Instance) : List Call → Prop where
  | nothing (hstage : i.stage ≠ .unmarked) : Prelude key i []
  | marking (r₀ : Call) (i₀ : Instance) (p : Call) (h₀ : r₀.Reads key i₀)
      (hp : p.Marks key.ns i₀) : Prelude key i [r₀, p]

/-- A pass goes on with the Instance that it has read last. -/
structure Advancing (adapters : Config.Adapters) (key : Key) (i : Instance) (log : List Call) :
    Prop where
  split : ∃ before r rest, log = before ++ r :: rest ∧ Prelude key i before ∧ r.Reads key i ∧
    ∀ c ∈ rest, c.request.Advances adapters key.ns i

/-- The requests that may come after a log. -/
inductive Next (b : Company) (adapters : Config.Adapters) (key : Key) :
    List Call → Request → Prop where
  | read : Next b adapters key [] (.getInstance key)
  | mark (r₀ : Call) (i₀ : Instance) (h₀ : r₀.Reads key i₀) (hstage : i₀.stage = .unmarked)
      (hlook : b.cancelled 1 = false) :
      Next b adapters key [r₀] (.patchFinalizers ⟨key.ns, i₀.name⟩ i₀.metadata.resourceVersion
        (i₀.metadata.finalizerList ++ [Instance.marker]))
  | reread (r₀ p : Call) : Next b adapters key [r₀, p] (.getInstance key)
  | advance (i : Instance) {log : List Call} (h : Advancing adapters key i log) (r : Request)
      (hr : r.Advances adapters key.ns i) (hlook : r.Weighty → b.cancelled log.length = false) :
      Next b adapters key log r

variable {ε α : Type} {b : Company} {s : Store} {adapters : Config.Adapters} {key : Key} {i : Instance}
  {log : List Call}

theorem Advancing.append (h : Advancing adapters key i log) {c : Call}
    (hc : c.request.Advances adapters key.ns i) : Advancing adapters key i (log ++ [c]) := by
  obtain ⟨before, r, rest, rfl, hbefore, hr, hrest⟩ := h.split
  refine ⟨before, r, rest ++ [c], by simp, hbefore, hr, ?_⟩
  intro c' hc'
  rcases List.mem_append.1 hc' with hold | hnew
  · exact hrest c' hold
  · rw [List.mem_singleton.1 hnew]
    exact hc

/-! ## How a pass opens -/

/-- A pass comes to its Instance by reading it, or by marking it and reading it again. -/
theorem next_opening {grants : List Call → Request → Prop}
    (hgrants : ∀ log r, Next b adapters key log r → grants log r) :
    (opening key).Keeps (within b s grants) [] fun found log =>
      ∀ i, found = .ok (some i) → Advancing adapters key i log := by
  have nothing {e : Pass.Error} {log : List Call} (i : Instance)
      (hi : Except.error e = .ok (some i)) : Advancing adapters key i log := nomatch hi
  unfold opening
  refine Keeps.call (hgrants _ _ .read) ?_ fun _ _ _ _ => nothing
  intro met found _ hread
  cases found with
  | none => exact fun _ hi => nomatch hi
  | some i₀ =>
    have h₀ : Call.Reads ⟨met, .getInstance key⟩ key i₀ := ⟨rfl, hread⟩
    dsimp only
    split
    · next hstage =>
      refine keeps_bind.2 (keeps_checkpoint.2 ⟨fun _ => nothing, fun hlook => ?_⟩)
      refine Keeps.call (hgrants _ _ (.mark _ i₀ h₀ hstage hlook)) ?_ fun _ _ _ _ => nothing
      intro met' _ _ hmark
      have hp : Call.Marks ⟨met', _⟩ key.ns i₀ := ⟨hstage, rfl, congrArg Except.isOk hmark⟩
      refine keeps_call (hgrants _ _ (.reread _ _)) fun met'' _ i hi => ?_
      cases hanswer : (met''.serve (.getInstance key)).1 with
      | error e =>
        rw [hanswer] at hi
        cases hi
      | ok found =>
        rw [hanswer] at hi
        cases hi
        exact ⟨_, _, [], rfl, .marking _ i₀ _ h₀ hp, ⟨rfl, hanswer⟩, fun _ hc => nomatch hc⟩
    · next hstage =>
      rintro i hi
      cases hi
      exact ⟨[], _, [], rfl, .nothing hstage, h₀, fun _ hc => nomatch hc⟩

/-! ## How it goes on -/

/-- A request for the Instance that a pass goes on with may come next, after a look if it is
weighty. -/
theorem Advancing.next (h : Advancing adapters key i log) {r : Request}
    (hr : r.Advances adapters key.ns i) (hlook : r.Weighty → b.cancelled log.length = false) :
    (within b s (Next b adapters key)).grants log r ∧ ∀ answer log',
      (within b s (Next b adapters key)).answers log r answer log' →
        Advancing adapters key i log' := by
  refine ⟨.advance i h r hr hlook, ?_⟩
  intro answer log' hserve
  cases hserve
  exact h.append hr

/-- A part that asks nothing weighty may come next. -/
theorem Asks.advancing {p : Pass ε α} {Q : Request → Prop} (h : Asks Q p)
    (hlog : Advancing adapters key i log) (hadvances : ∀ r, Q r → r.Advances adapters key.ns i)
    (hlight : ∀ r, Q r → ¬ r.Weighty) :
    p.Keeps (within b s (Next b adapters key)) log fun _ log' => Advancing adapters key i log' := by
  refine h.keeps hlog fun log r hlog hr => ?_
  exact hlog.next (hadvances r hr) fun hweighty => absurd hweighty (hlight r hr)

theorem next_converge (cfg : Config) (h : Advancing cfg.adapters key i log)
    (halive : i.isDeleting = false) :
    (converge cfg key.ns i).Keeps (within b s (Next b cfg.adapters key)) log fun _ _ => True :=
  ((asks_converge cfg).advancing h (fun r hr => .converge halive r hr)
    fun _ hr => hr.not_weighty).mono fun _ _ _ => trivial

/-- Directly before each delete of a workload the pass looks whether it was cancelled. -/
theorem next_deleteWorkloads (h : Advancing adapters key i log) (hdeleting : i.isDeleting = true)
    (ds : List Deployment) :
    (deleteWorkloads key.ns ds).Keeps (within b s (Next b adapters key)) log
      fun _ log' => Advancing adapters key i log' := by
  induction ds generalizing log with
  | nil => exact h
  | cons d ds ih =>
    refine keeps_bind.2 (keeps_checkpoint.2 ⟨fun _ => h, fun hlook => ?_⟩)
    refine keeps_bind.2 (keeps_mapError.2 (keeps_discard.2 ?_))
    obtain ⟨hnext, hlog⟩ := h.next (s := s) (.teardown hdeleting _ (.delete .deployment
      ⟨key.ns, d.metadata.displayName⟩)) fun _ => hlook
    refine ⟨hnext, fun answer log' ha => ?_⟩
    have h' := hlog answer log' ha
    cases hgone : Store.Error.ignoreMissing answer with
    | ok _ => exact ih h'
    | error e => exact h'

theorem next_teardown (intervals : Config.Intervals) (h : Advancing adapters key i log)
    (hdeleting : i.isDeleting = true) :
    (teardown intervals key.ns i).Keeps (within b s (Next b adapters key)) log
      fun _ _ => True := by
  have tearing (r : Request) (hr : r.TearsDown key.ns i) : r.Advances adapters key.ns i :=
    .teardown hdeleting r hr
  have listing (selector : String) : Asks (· = .list .deployment key.ns selector)
      (askStore (.list .deployment key.ns selector)) := asks_askStore rfl
  have listed {log : List Call} (hlog : Advancing adapters key i log) (selector : String) :=
    (listing selector).advancing (b := b) (s := s) hlog
      (fun r hr => tearing r (hr ▸ .list _ _)) fun r hr => hr ▸ id
  unfold teardown
  refine Keeps.bind (listed h _) ?_ fun _ _ _ => trivial
  intro workloads log₁ h₁
  refine Keeps.bind (next_deleteWorkloads h₁ hdeleting workloads) ?_ fun _ _ _ => trivial
  intro _ log₂ h₂
  refine Keeps.bind (listed h₂ _) ?_ fun _ _ _ => trivial
  intro remaining log₃ h₃
  split
  · trivial
  · have emptied := (asks_deleteStores (ε := Pass.Error) key.ns i.name
      (Naming.componentSelector i.name Naming.channelComponent)).advancing (b := b) (s := s) h₃
      (fun r hr => tearing r hr.tearsDown) fun _ hr => hr.not_weighty
    refine Keeps.bind emptied ?_ fun _ _ _ => trivial
    intro _ log₄ h₄
    split
    · trivial
    · next hmarked =>
      refine keeps_bind.2 (keeps_checkpoint.2 ⟨fun _ => trivial, fun hlook => ?_⟩)
      obtain ⟨hnext, -⟩ := h₄.next (s := s) (tearing _ (.unmark (by simpa using hmarked)))
        fun _ => hlook
      refine keeps_bind.2 ⟨hnext, fun answer log' _ => ?_⟩
      dsimp only
      split <;> trivial

theorem next_advance (cfg : Config) (h : Advancing cfg.adapters key i log) :
    (advance cfg key.ns i).Keeps (within b s (Next b cfg.adapters key)) log fun _ _ => True := by
  unfold advance
  split
  · next hdeleting => exact next_teardown _ h hdeleting
  · next halive => exact next_converge cfg h (Bool.not_eq_true _ ▸ halive)

/-! ## Whole passes -/

theorem next_reconcile (cfg : Config) (key : Key) (b : Company) (s : Store) :
    (reconcile cfg key).Keeps (within b s (Next b cfg.adapters key)) [] fun _ _ => True := by
  refine Keeps.opened (next_opening fun _ _ h => h) (fun _ _ => trivial) ?_ fun _ _ _ => trivial
  exact fun i log hopened => next_advance cfg (hopened i rfl)

theorem genuine_calls (cfg : Config) (key : Key) (b : Company) (s : Store) :
    Genuine b s (calls cfg key b s) :=
  (next_reconcile cfg key b s).logged.1

/-- Whatever others do and whenever a pass is cancelled, each of its calls may come after the
calls before it. -/
theorem course {cfg : Config} {earlier later : List Call} {c : Call}
    (h : calls cfg key b s = earlier ++ c :: later) : Next b cfg.adapters key earlier c.request :=
  (next_reconcile cfg key b s).logged.2.1 earlier c later h

end Pass

end WorkloadOperator
