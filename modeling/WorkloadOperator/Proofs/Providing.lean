import WorkloadOperator.Pass.Channels
import WorkloadOperator.Pass.Memory
import WorkloadOperator.Proofs.Contract

/-!
# One way to provide a child

Session stores, workloads and memory stores are provided in the same way: what is there
is left alone, and what is missing is created.  `ensure` is that way, and `keeps_ensure`
says what a contract asks of it.
-/

namespace WorkloadOperator

namespace Pass

variable {ε α σ : Type}

/-- Read a child, and create it if it is missing.  One that somebody else has created in
the meantime will do. -/
def ensure (c : Child) (k : Key) (o : c.Object) (present : c.Object → α)
    (created : Pass Store.Error α) (raced : α) : Pass Store.Error α := do
  match ← ask (.get c k) with
  | some found => return present found
  | none =>
    match ← (ask (.create c k.ns o)).attempt with
    | .ok _ => created
    | .error (.alreadyExists _) => return raced
    | .error e => .fail e

/-- A part is over without a request. -/
def Quiet (p : Pass ε α) : Prop :=
  ∃ x, ∀ {σ : Type} (ct : Contract σ) (s : σ) (q : Except ε α → σ → Prop),
    q (.ok x) s → p.Keeps ct s q

theorem quiet_done (x : α) : Quiet (done x : Pass ε α) := ⟨x, fun _ _ _ h => h⟩

theorem quiet_publish (e : Event) (x : α) : Quiet (publish e (done x) : Pass ε α) :=
  ⟨x, fun _ _ _ h => h⟩

/-- What reads a child and creates it if need be, in whatever words, provides it in this way. -/
theorem eq_ensure {c : Child} {k : Key} {o : c.Object} {present : c.Object → α}
    {created : Pass Store.Error α} {raced : α} {next : Option c.Object → Pass Store.Error α}
    {f : Except Store.Error c.Object → Pass Store.Error α}
    (hpresent : ∀ x, next (some x) = .done (present x))
    (hmissing : next none = (ask (.create c k.ns o)).attempt.bind f)
    (hcreated : ∀ x, f (.ok x) = created)
    (hraced : ∀ what, f (.error (.alreadyExists what)) = .done raced)
    (hfailed : ∀ e, e.isAlreadyExists = false → f (.error e) = .fail e) :
    (ask (.get c k)).bind next = ensure c k o present created raced := by
  refine congrArg (Pass.bind _) (funext fun found => ?_)
  cases found with
  | some x => exact hpresent x
  | none =>
    rw [hmissing]
    refine congrArg (Pass.bind _) (funext fun answer => ?_)
    cases answer with
    | ok x => exact hcreated x
    | error e =>
      cases e with
      | alreadyExists what => exact hraced what
      | notFound | conflict | unavailable | invalid => exact hfailed _ rfl

variable {adapters : Config.Adapters} {i : Instance} {o : Owner} {d : Channel.Declaration}

theorem provideSession_eq : provideSession adapters i o d =
    ensure .volumeClaim ⟨o.ns, Naming.sessionStore o.name d.channel⟩ (o.sessionStore d adapters)
      (fun _ => ()) (tell (.sessionStoreCreated i (Naming.sessionStore o.name d.channel))) () := by
  refine eq_ensure (fun _ => rfl) rfl (fun _ => rfl) (fun _ => rfl) ?_
  intro e he
  cases e <;> first | rfl | cases he

theorem provideWorkload_eq : provideWorkload adapters i o d =
    ensure .deployment ⟨o.ns, Naming.workload o.name d.channel⟩ (o.workload d adapters) linkOf
      (.publish (.workloadCreated i (Naming.workload o.name d.channel)) (.done .pending))
      .pending := by
  refine eq_ensure (fun _ => rfl) rfl (fun _ => rfl) (fun _ => rfl) ?_
  intro e he
  cases e <;> first | rfl | cases he

theorem createMemory_eq : createMemory o =
    ensure .configMap ⟨o.ns, Naming.memoryStore o.name⟩ o.memoryStore (fun _ => false) (.done true)
      false := by
  refine eq_ensure (fun _ => rfl) rfl (fun _ => rfl) (fun _ => rfl) ?_
  intro e he
  cases e <;> first | rfl | cases he

variable {ct : Contract σ} {s : σ} {c : Child} {k : Key} {object : c.Object}
  {present : c.Object → α} {created : Pass Store.Error α} {raced : α}
  {q : Except Store.Error α → σ → Prop}

/-- A child is provided by what is done if it is there, and what is done if it is not. -/
theorem keeps_ensure (hquiet : Quiet created) (hgrants : ct.grants s (.get c k))
    (hpresent : ∀ x s', ct.answers s (.get c k) (.ok (some x)) s' → q (.ok (present x)) s')
    (hunread : ∀ e s', ct.answers s (.get c k) (.error e) s' → q (.error e) s')
    (hmissing : ∀ s', ct.answers s (.get c k) (.ok none) s' →
      ct.grants s' (.create c k.ns object) ∧
      (∀ x s'', ct.answers s' (.create c k.ns object) (.ok x) s'' → ∀ a, q (.ok a) s'') ∧
      (∀ what s'', ct.answers s' (.create c k.ns object) (.error (.alreadyExists what)) s'' →
        q (.ok raced) s'') ∧
      ∀ e s'', e.isAlreadyExists = false → ct.answers s' (.create c k.ns object) (.error e) s'' →
        q (.error e) s'') :
    (ensure c k object present created raced).Keeps ct s q := by
  refine keeps_bind.2 (keeps_ask.2 ⟨hgrants, ?_⟩)
  intro answer s' ha
  cases answer with
  | error e => exact hunread e s' ha
  | ok found =>
    cases found with
    | some x => exact hpresent x s' ha
    | none =>
      obtain ⟨hcreate, hcreated, hraced, hfailed⟩ := hmissing s' ha
      refine keeps_bind.2 (keeps_attempt.2 (keeps_ask.2 ⟨hcreate, ?_⟩))
      intro answer s'' ha'
      cases answer with
      | ok x =>
        obtain ⟨a, ha⟩ := hquiet
        exact ha ct s'' q (hcreated x s'' ha' a)
      | error e =>
        cases e with
        | alreadyExists what => exact hraced what s'' ha'
        | notFound | conflict | unavailable | invalid => exact hfailed _ s'' rfl ha'

end Pass

end WorkloadOperator
