import WorkloadOperator.Proofs.Cancellation

/-!
# Requests are all or nothing

A request is refused, or it is done as a whole.  If it is refused, then the objects, the counter
and the journal are as they were, and of the faults at most one use of one fault is gone: that of
the fault which has refused the request (`Struck`).  If it is done, and it was a read, then nothing
has changed at all.  If it is done, and it was a change, then the journal has one entry more, which
says what was changed, and nothing else has changed (`Altered`).

So the journal is the truth about what happened to a store (`atomic`).
-/

namespace WorkloadOperator

/-- The key of the object that a request changes, none if it only reads. -/
def Request.subject? : Request → Option Key
  | .create c ns o => some ⟨ns, c.kind.nameOf o⟩
  | .delete _ key | .patchFinalizers key _ _ | .patchStatus key _ _ => some key
  | .getInstance _ | .get _ _ | .list _ _ _ | .listRuns _ _ => none

/-- What a verb does to the object that it is applied to. -/
def Verb.Acts {α : Type} : Verb → Option α → Option α → Prop
  | .get, before, after | .list, before, after => after = before
  | .create, before, after => before = none ∧ after.isSome = true
  | .delete, before, after => before.isSome = true ∧ after = none
  | .patch, before, _ => before.isSome = true

namespace Store

variable {s s' : Store} {verb : Verb} {kind : Kind} {key : Key} {e : Store.Error}

/-! ## One use of one fault -/

/-- Whether a fault waits for requests of a verb and kind. -/
def Fault.Awaits (f : Fault) (verb : Verb) (kind : Kind) : Prop := f.verb = verb ∧ f.kind = kind

/-- What is left of a fault after one use more. -/
inductive Fault.Spent (f : Fault) : List Fault → Prop where
  | lasting (h : f.further = none) : Spent f [f]
  | last (h : f.further = some 0) : Spent f []
  | counted (n : Nat) (h : f.further = some (n + 1)) : Spent f [{ f with further := some n }]

/-- A fault has struck a request of a verb and kind: it was the first one that waited for such a
request, it gave the error, and one use of it is gone. -/
inductive Struck (verb : Verb) (kind : Kind) : Store.Error → List Fault → List Fault → Prop where
  | struck (earlier later left : List Fault) (f : Fault)
      (hearlier : ∀ g ∈ earlier, ¬ g.Awaits verb kind) (hawaits : f.Awaits verb kind)
      (hspent : f.Spent left) :
      Struck verb kind f.error (earlier ++ f :: later) (earlier ++ left ++ later)

theorem Fault.spent_used (f : Fault) : f.Spent f.used.toList := by
  cases h : f.further with
  | none =>
    simp only [used, h, Option.toList_some]
    exact .lasting h
  | some n =>
    cases n with
    | zero =>
      simp only [used, h, Option.toList_none]
      exact .last h
    | succ n =>
      simp only [used, h, Option.toList_some]
      exact .counted n h

/-- Another fault in front, which waits for other requests, makes no difference. -/
theorem Struck.cons {faults left : List Fault} (h : Struck verb kind e faults left) {g : Fault}
    (hg : ¬ g.Awaits verb kind) : Struck verb kind e (g :: faults) (g :: left) := by
  cases h with
  | struck earlier later left f hearlier hawaits hspent =>
    refine .struck (g :: earlier) later left f ?_ hawaits hspent
    intro g' hg'
    rcases List.mem_cons.1 hg' with rfl | hold
    · exact hg
    · exact hearlier g' hold

theorem struck_of_strike {faults left : List Fault}
    (h : strike verb kind faults = some (e, left)) : Struck verb kind e faults left := by
  induction faults generalizing left with
  | nil => simp [strike] at h
  | cons f faults ih =>
    simp only [strike] at h
    split at h
    next hawaits =>
      simp only [Option.some.injEq, Prod.mk.injEq] at h
      obtain ⟨rfl, rfl⟩ := h
      exact .struck [] faults f.used.toList f (by simp) hawaits f.spent_used
    next hother =>
      obtain ⟨⟨e', left'⟩, hstrike, he⟩ := Option.map_eq_some_iff.1 h
      simp only [Prod.mk.injEq] at he
      obtain ⟨rfl, rfl⟩ := he
      exact (ih hstrike).cons hother

theorem not_awaits_of_not_faulty (h : ¬ s.Faulty verb kind) :
    ∀ f ∈ s.faults, ¬ f.Awaits verb kind := by
  intro f hf hawaits
  apply h
  simp only [Faulty, isSome_strike, List.any_eq_true, decide_eq_true_eq]
  exact ⟨f, hf, hawaits⟩

/-! ## One object and one entry -/

/-- One object has changed, and the journal has one entry more, which says so. -/
structure Altered (s s' : Store) (verb : Verb) (kind : Kind) (key : Key) : Prop where
  journal : s'.journal = s.journal ++ [⟨verb, kind, key.name⟩]
  faults : s'.faults = s.faults
  version : s'.version = s.version ∨ s'.version = s.version + 1
  object : verb.Acts (s.find? kind key) (s'.find? kind key)
  rest : ∀ κ k, ¬ (κ = kind ∧ k = key) → s'.find? κ k = s.find? κ k

/-- An object is put under its key with the version that is given next, and that is noted. -/
theorem altered_put {o : kind.Object} (h : verb.Acts (s.find? kind key) (some o)) :
    Altered s ((s.bump.put kind key o).record verb kind key.name) verb kind key where
  journal := by simp
  faults := by simp
  version := by simp
  object := by
    rw [find?_record, find?_put_self]
    exact h
  rest := by
    intro κ k hplace
    rw [find?_record, find?_put_of_not o hplace, find?_bump]

/-- An object is dropped, and that is noted. -/
theorem altered_drop (h : verb.Acts (s.find? kind key) none) :
    Altered s ((s.drop kind key).record verb kind key.name) verb kind key where
  journal := by simp
  faults := by simp
  version := by simp
  object := by
    rw [find?_record, find?_drop_self]
    exact h
  rest := by
    intro κ k hplace
    rw [find?_record, find?_drop_of_not hplace]

theorem altered_create {c : Child} {ns : String} {o x : c.Object}
    (h : (s.answer (.create c ns o)).1 = .ok x) :
    Altered s (s.answer (.create c ns o)).2 .create c.kind ⟨ns, c.kind.nameOf o⟩ := by
  simp only [answer] at h ⊢
  split at h
  next => cases h
  next hname =>
    split at h
    next => cases h
    next hmissing =>
      have hnone := Option.not_isSome_iff_eq_none.1 hmissing
      rw [if_neg hname, if_neg hmissing, insert_eq, nameOf_insert]
      exact altered_put ⟨hnone, rfl⟩

theorem altered_delete {c : Child} (h : (s.answer (.delete c key)).1 = .ok ()) :
    Altered s (s.answer (.delete c key)).2 .delete c.kind key := by
  simp only [answer] at h ⊢
  split at h
  next hfound =>
    rw [if_pos hfound]
    exact altered_drop ⟨hfound, rfl⟩
  next => cases h

theorem altered_patchFinalizers {version : Option String} {finalizers : List String}
    (h : (s.answer (.patchFinalizers key version finalizers)).1 = .ok ()) :
    Altered s (s.answer (.patchFinalizers key version finalizers)).2 .patch .inst key := by
  simp only [answer] at h ⊢
  split at h
  next => cases h
  next i hi =>
    have hthere : (s.find? .inst key).isSome = true := by simp [hi]
    split at h
    next hmeant =>
      rw [if_pos hmeant]
      -- the entry is written first here, which makes no difference
      split
      next =>
        show Altered s ((s.drop .inst key).record .patch .inst key.name) .patch .inst key
        exact altered_drop hthere
      next =>
        show Altered s ((s.bump.put .inst key _).record .patch .inst key.name) .patch .inst key
        exact altered_put hthere
    next => cases h

theorem altered_patchStatus {version : Option String} {patch : Json}
    (h : (s.answer (.patchStatus key version patch)).1 = .ok ()) :
    Altered s (s.answer (.patchStatus key version patch)).2 .patch .inst key := by
  simp only [answer] at h ⊢
  split at h
  next => cases h
  next i hi =>
    have hthere : (s.find? .inst key).isSome = true := by simp [hi]
    split at h
    next hmeant =>
      rw [if_pos hmeant]
      split at h
      next => cases h
      next status hstatus => exact altered_put hthere
    next => cases h

/-! ## Requests -/

/-- A read changes nothing. -/
theorem answer_of_read {r : Request} (h : r.verb = .get ∨ r.verb = .list) :
    (s.answer r).2 = s := by
  cases r with
  | getInstance | get | list | listRuns => rfl
  | create | delete | patchFinalizers | patchStatus => rcases h with h | h <;> cases h

/-- A change that is done has changed the object under its key, and nothing else. -/
theorem altered_answer {r : Request} (hverb : r.verb = .create ∨ r.verb = .delete ∨ r.verb = .patch)
    {reply : r.Reply} (h : (s.answer r).1 = .ok reply) :
    ∃ key, r.subject? = some key ∧ Altered s (s.answer r).2 r.verb r.kind key := by
  cases r with
  | create c ns o => exact ⟨_, rfl, altered_create h⟩
  | delete c key => exact ⟨key, rfl, altered_delete h⟩
  | patchFinalizers key version finalizers => exact ⟨key, rfl, altered_patchFinalizers h⟩
  | patchStatus key version patch => exact ⟨key, rfl, altered_patchStatus h⟩
  | getInstance | get | list | listRuns => rcases hverb with h | h | h <;> cases h

/-- A request that meets a fault uses it once, and does nothing else. -/
theorem struck_serve {r : Request} (h : s.Faulty r.verb r.kind) :
    ∃ e faults, s.serve r = (.error e, { s with faults }) ∧
      Struck r.verb r.kind e s.faults faults := by
  obtain ⟨e, faults, hstrike, hserve⟩ := serve_of_faulty h
  exact ⟨e, faults, hserve, struck_of_strike hstrike⟩

/-- Whatever is asked of a store: if it is refused, then the objects, the counter and the journal
stay as they are, and so do the faults, unless one of them has refused it, of which one use is gone.
A read changes nothing.  A change that is done is in the journal with its verb, kind and name, and
changes one object. -/
theorem atomic (s : Store) (r : Request) :
    (∀ e, (s.serve r).1 = .error e →
      ((s.serve r).2 = s ∧ ∀ f ∈ s.faults, ¬ f.Awaits r.verb r.kind) ∨
        ∃ faults, (s.serve r).2 = { s with faults } ∧
          Struck r.verb r.kind e s.faults faults) ∧
    (∀ reply, (s.serve r).1 = .ok reply →
      (r.verb = .get ∨ r.verb = .list → (s.serve r).2 = s) ∧
        (r.verb = .create ∨ r.verb = .delete ∨ r.verb = .patch →
          ∃ key, r.subject? = some key ∧ Altered s (s.serve r).2 r.verb r.kind key)) := by
  constructor
  · intro e he
    by_cases hfaulty : s.Faulty r.verb r.kind
    · obtain ⟨e', faults, hserve, hstruck⟩ := struck_serve hfaulty
      simp only [hserve, Except.error.injEq] at he
      subst he
      exact .inr ⟨faults, by rw [hserve], hstruck⟩
    · rw [serve_of_not_faulty hfaulty] at he ⊢
      exact .inl ⟨answer_of_error he, not_awaits_of_not_faulty hfaulty⟩
  · intro reply hreply
    have haccepts : s.Accepts r := by
      rw [Accepts, hreply]
      rfl
    rw [serve_of_accepts haccepts] at hreply ⊢
    exact ⟨answer_of_read, fun hverb => altered_answer hverb hreply⟩

end Store

end WorkloadOperator
