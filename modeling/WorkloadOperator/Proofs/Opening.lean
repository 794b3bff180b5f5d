import WorkloadOperator.Proofs.Asking

/-!
# How a pass opens

A pass opens with the reading of its Instance.  One that is neither marked nor being
deleted is marked and read again.  Then the pass advances the Instance that it has read
last (`reconcile_eq`).  So a contract is kept by whole passes if it is kept by their opening,
and then by what advances the Instance (`Keeps.opened`).
-/

namespace WorkloadOperator

namespace Pass

/-- Find the Instance under a key, and mark it unless it is marked or being deleted. -/
def opening (key : Key) : Pass Pass.Error (Option Instance) := do
  match ← askStore (.getInstance key) with
  | none => return none
  | some i =>
    if i.stage = .unmarked then
      checkpoint
      mark key.ns i
      askStore (.getInstance key)
    else return some i

/-- A pass opens with requests for its Instance. -/
theorem asks_opening (key : Key) : Asks (·.kind = .inst) (opening key) := by
  unfold opening
  refine Stays.bind (asks_askStore rfl) ?_
  rintro (_ | i)
  · rfl
  · dsimp only
    split
    · exact Stays.bind stays_checkpoint fun _ => Stays.bind (asks_askStore rfl) fun _ =>
        asks_askStore rfl
    · rfl

/-- What follows the opening of a pass. -/
def proceed (cfg : Config) (key : Key) : Option Instance → Pass Pass.Error Action
  | none => .done .awaitChange
  | some i => advance cfg key.ns i

/-- A pass opens, and advances the Instance that it has found. -/
theorem reconcile_eq (cfg : Config) (key : Key) :
    reconcile cfg key = (opening key).bind (proceed cfg key) := by
  have deleting {i : Instance} (h : i.stage = .held ∨ i.stage = .released) :
      teardown cfg.intervals key.ns i = advance cfg key.ns i := by
    rw [advance, if_pos (Instance.isDeleting_of_stage h)]
  unfold opening
  refine Eq.trans ?_ (bind_assoc ..).symm
  refine congrArg (Pass.bind _) (funext fun found => ?_)
  cases found with
  | none => rfl
  | some i =>
    dsimp only
    cases hstage : i.stage with
    | unmarked =>
      rw [if_pos rfl]
      refine Eq.trans ?_ (bind_assoc ..).symm
      refine congrArg (Pass.bind _) (funext fun _ => ?_)
      refine Eq.trans ?_ (bind_assoc (mark key.ns i) _ _).symm
      refine congrArg (Pass.bind _) (funext fun _ => congrArg (Pass.bind _) (funext fun found => ?_))
      cases found <;> rfl
    | alive =>
      have halive := Instance.not_isDeleting_of_stage (.inr hstage)
      rw [if_neg (by decide)]
      show converge cfg key.ns i = advance cfg key.ns i
      rw [advance, halive]
      rfl
    | held => exact deleting (.inl hstage)
    | released => exact deleting (.inr hstage)

/-- What advances an Instance may rely on what is promised of the opening that has found it. -/
theorem Keeps.opened {σ : Type} {c : Contract σ} {s : σ} {cfg : Config} {key : Key}
    {m : Except Pass.Error (Option Instance) → σ → Prop} {q : Except Pass.Error Action → σ → Prop}
    (h : (opening key).Keeps c s m) (hnone : ∀ s', m (.ok none) s' → q (.ok .awaitChange) s')
    (hsome : ∀ i s', m (.ok (some i)) s' → (advance cfg key.ns i).Keeps c s' q)
    (herror : ∀ e s', m (.error e) s' → q (.error e) s') : (reconcile cfg key).Keeps c s q := by
  rw [reconcile_eq]
  refine Keeps.bind h ?_ herror
  intro found s' hm
  cases found with
  | none => exact hnone s' hm
  | some i => exact hsome i s' hm

end Pass

end WorkloadOperator
