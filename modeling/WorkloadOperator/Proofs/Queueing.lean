import WorkloadOperator.Proofs.Cancellation

/-!
# Faults wait in queues

Faults wait in one queue for each verb and kind.  A request meets the first fault of its own
queue and leaves the other queues alone (`strike_cases`).

So two lists of faults need to agree on a queue only if it matters which faults wait in it.
`Agree` says that they agree on all queues but some, and they do so still after a request has
met faults in both of them (`Agree.strike`).
-/

namespace WorkloadOperator

namespace Store

variable {verb : Verb} {kind : Kind} {faults faults' left : List Fault} {e : Store.Error}

/-- The faults that wait for requests of a verb and kind, in their order. -/
def queue (verb : Verb) (kind : Kind) (faults : List Fault) : List Fault :=
  faults.filter fun f => f.verb = verb ∧ f.kind = kind

theorem queue_cons_self (f : Fault) (faults : List Fault) :
    queue f.verb f.kind (f :: faults) = f :: queue f.verb f.kind faults :=
  List.filter_cons_of_pos (by simp)

theorem queue_cons_of_ne {f : Fault} (h : ¬ (f.verb = verb ∧ f.kind = kind)) (faults : List Fault) :
    queue verb kind (f :: faults) = queue verb kind faults :=
  List.filter_cons_of_neg (by simpa using h)

/-- What is left of a fault waits in the same queue. -/
theorem queue_used (f : Fault) : queue f.verb f.kind f.used.toList = f.used.toList := by
  refine List.filter_eq_self.2 fun g hg => decide_eq_true ?_
  exact mem_used (Option.mem_toList.1 hg)

theorem queue_used_of_ne {f : Fault} (h : ¬ (f.verb = verb ∧ f.kind = kind)) :
    queue verb kind f.used.toList = [] := by
  refine List.filter_eq_nil_iff.2 fun g hg => ?_
  obtain ⟨hverb, hkind⟩ := mem_used (Option.mem_toList.1 hg)
  rw [hverb, hkind]
  simpa using h

/-- A request meets the first fault of its queue, if there is one.  What is left of that fault
stays the first, and all other queues are as they were. -/
theorem strike_cases (verb : Verb) (kind : Kind) (faults : List Fault) :
    (queue verb kind faults = [] ∧ strike verb kind faults = none) ∨
      ∃ f waiting left, queue verb kind faults = f :: waiting ∧
        strike verb kind faults = some (f.error, left) ∧
        queue verb kind left = f.used.toList ++ waiting ∧
        ∀ verb' kind', ¬ (verb = verb' ∧ kind = kind') →
          queue verb' kind' left = queue verb' kind' faults := by
  induction faults with
  | nil => exact .inl ⟨rfl, rfl⟩
  | cons g faults ih =>
    by_cases hg : g.verb = verb ∧ g.kind = kind
    · obtain ⟨rfl, rfl⟩ := hg
      refine .inr ⟨g, queue g.verb g.kind faults, g.used.toList ++ faults, queue_cons_self g faults,
        if_pos ⟨rfl, rfl⟩, ?_, fun verb' kind' hne => ?_⟩
      · rw [queue, List.filter_append, ← queue, ← queue, queue_used]
      · rw [queue_cons_of_ne hne, queue, List.filter_append, ← queue, ← queue,
          queue_used_of_ne hne, List.nil_append]
    · rw [queue_cons_of_ne hg, strike, if_neg hg]
      rcases ih with ⟨hqueue, hstrike⟩ | ⟨f, waiting, left, hqueue, hstrike, hleft, hother⟩
      · exact .inl ⟨hqueue, by rw [hstrike]; rfl⟩
      · refine .inr ⟨f, waiting, g :: left, hqueue, by rw [hstrike]; rfl, ?_,
          fun verb' kind' hne => ?_⟩
        · rw [queue_cons_of_ne hg, hleft]
        · by_cases hg' : g.verb = verb' ∧ g.kind = kind'
          · obtain ⟨rfl, rfl⟩ := hg'
            rw [queue_cons_self, queue_cons_self, hother _ _ hne]
          · rw [queue_cons_of_ne hg', queue_cons_of_ne hg', hother _ _ hne]

/-- A fault that strikes leaves the queues of other requests alone. -/
theorem queue_of_strike (h : strike verb kind faults = some (e, left)) {verb' : Verb} {kind' : Kind}
    (hne : ¬ (verb = verb' ∧ kind = kind')) :
    queue verb' kind' left = queue verb' kind' faults := by
  rcases strike_cases verb kind faults with ⟨-, hnone⟩ | ⟨f, waiting, left', -, hsome, -, hother⟩
  · cases hnone.symm.trans h
  · cases hsome.symm.trans h
    exact hother _ _ hne

/-! ## Agreement -/

/-- Two lists of faults agree on all queues but those of some verbs and kinds. -/
def Agree (apart : Verb → Kind → Bool) (faults faults' : List Fault) : Prop :=
  ∀ verb kind, apart verb kind = false → queue verb kind faults = queue verb kind faults'

variable {apart : Verb → Kind → Bool}

instance (apart : Verb → Kind → Bool) (faults faults' : List Fault) :
    Decidable (Agree apart faults faults') :=
  decidable_of_iff (∀ verb ∈ Verb.all, ∀ kind ∈ Kind.all, apart verb kind = false →
      queue verb kind faults = queue verb kind faults')
    ⟨fun h verb kind => h verb (by cases verb <;> decide) kind (by cases kind <;> decide),
      fun h verb _ kind _ => h verb kind⟩

theorem Agree.refl (apart : Verb → Kind → Bool) (faults : List Fault) : Agree apart faults faults :=
  fun _ _ _ => rfl

theorem Agree.symm (h : Agree apart faults faults') : Agree apart faults' faults :=
  fun verb kind hshared => (h verb kind hshared).symm

theorem Agree.trans {faults'' : List Fault} (h : Agree apart faults faults')
    (h' : Agree apart faults' faults'') : Agree apart faults faults'' :=
  fun verb kind hshared => (h verb kind hshared).trans (h' verb kind hshared)

/-- A fault that is met in a queue apart makes no difference. -/
theorem agree_of_strike (h : strike verb kind faults = some (e, left))
    (hapart : apart verb kind = true) : Agree apart faults left := by
  intro verb' kind' hshared
  refine (queue_of_strike h ?_).symm
  rintro ⟨rfl, rfl⟩
  exact nomatch hapart.symm.trans hshared

/-- Faults that agree on a queue strike in the same way, and they agree on it afterwards. -/
theorem Agree.strike (h : Agree apart faults faults') (hshared : apart verb kind = false) :
    (strike verb kind faults = none ∧ strike verb kind faults' = none) ∨
      ∃ e left left', strike verb kind faults = some (e, left) ∧
        strike verb kind faults' = some (e, left') ∧ Agree apart left left' := by
  have hsame := h verb kind hshared
  rcases strike_cases verb kind faults with
    ⟨hqueue, hnone⟩ | ⟨f, waiting, left, hqueue, hsome, hleft, hother⟩ <;>
  rcases strike_cases verb kind faults' with
    ⟨hqueue', hnone'⟩ | ⟨f', waiting', left', hqueue', hsome', hleft', hother'⟩
  · exact .inl ⟨hnone, hnone'⟩
  · rw [hqueue, hqueue'] at hsame
    cases hsame
  · rw [hqueue, hqueue'] at hsame
    cases hsame
  · rw [hqueue, hqueue'] at hsame
    cases hsame
    refine .inr ⟨f.error, left, left', hsome, hsome', fun verb' kind' hshared' => ?_⟩
    by_cases hsame : verb = verb' ∧ kind = kind'
    · obtain ⟨rfl, rfl⟩ := hsame
      rw [hleft, hleft']
    · rw [hother _ _ hsame, hother' _ _ hsame, h verb' kind' hshared']

end Store

end WorkloadOperator
