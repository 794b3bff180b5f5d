import Mathlib.Data.List.Induction
import WorkloadOperator.Pass.Reconcile
import WorkloadOperator.Proofs.Contract
import WorkloadOperator.Store.Operation

/-!
# A pass in company

While a pass is under way, others do to the store what they like between any two of its
requests, and it may be cancelled at any time.  A company says what they do and what the
pass sees of its cancellation.  The log of the pass has one call for each request, with
the store that the request meets.

`Keeps.logged` says how a contract is brought to the logs of a pass: if each request goes with
the log before it, then so does every call of the log.
-/

namespace WorkloadOperator

namespace Store

/-- A store may become another one. -/
def Becomes (s s' : Store) : Prop := ∃ operations, s' = s.run operations

variable {s s' s'' : Store}

theorem Becomes.refl (s : Store) : s.Becomes s := ⟨[], rfl⟩

theorem Becomes.trans (h : s.Becomes s') (h' : s'.Becomes s'') : s.Becomes s'' := by
  obtain ⟨operations, rfl⟩ := h
  obtain ⟨operations', rfl⟩ := h'
  exact ⟨operations ++ operations', List.foldl_append.symm⟩

theorem becomes_run (s : Store) (operations : List Operation) : s.Becomes (s.run operations) :=
  ⟨operations, rfl⟩

theorem becomes_serve (s : Store) (r : Request) : s.Becomes (s.serve r).2 := ⟨[.request r], rfl⟩

end Store

namespace Pass

/-- What others do while a pass is under way. -/
structure Company where
  /-- What happens to the store directly before the call of that number, from zero on. -/
  others : Nat → List Operation := fun _ => []
  /-- Whether the pass was cancelled, as it sees it after so many calls. -/
  cancelled : Nat → Bool := fun _ => false

/-- A request of a pass, with the store that it meets. -/
structure Call where
  met : Store
  request : Request

namespace Call

/-- The answer to the request. -/
def answer (c : Call) : c.request.Answer := (c.met.serve c.request).1

/-- The store after the request. -/
def after (c : Call) : Store := (c.met.serve c.request).2

end Call

/-- The store after the calls of a log, or the one at the beginning. -/
def left (s : Store) (log : List Call) : Store := (log.getLast?.map Call.after).getD s

/-- The call by which a request continues a log. -/
def Company.call (b : Company) (s : Store) (log : List Call) (r : Request) : Call :=
  ⟨(left s log).run (b.others log.length), r⟩

/-- The surroundings of a pass in company, which begins with a store.  All calls are kept. -/
def amid (b : Company) (s : Store) : Surroundings (List Call) where
  serve r log := ((b.call s log r).answer, log ++ [b.call s log r])
  isCancelled log := b.cancelled log.length
  publish _ log := log

/-- The calls of a whole pass for the Instance under a key. -/
def calls (cfg : Config) (key : Key) (b : Company) (s : Store) : List Call :=
  ((reconcile cfg key).run (amid b s) []).2

@[simp] theorem left_nil (s : Store) : left s [] = s := rfl

@[simp] theorem left_append (s : Store) (log : List Call) (c : Call) :
    left s (log ++ [c]) = c.after := by
  simp [left]

/-! ## Logs -/

/-- Each call of a log goes with the log before it. -/
def Throughout (P : List Call → Call → Prop) (log : List Call) : Prop :=
  ∀ earlier c later, log = earlier ++ c :: later → P earlier c

variable {P : List Call → Call → Prop} {log later : List Call} {c : Call} {b : Company} {s : Store}

theorem throughout_nil : Throughout P [] := by
  intro earlier c later h
  simp at h

theorem Throughout.append (h : Throughout P log) (hc : P log c) : Throughout P (log ++ [c]) := by
  intro earlier c' later he
  rcases List.eq_nil_or_concat later with rfl | ⟨later, last, rfl⟩
  · obtain ⟨rfl, hlast⟩ := List.append_inj' he rfl
    cases hlast
    exact hc
  · rw [List.concat_eq_append, ← List.cons_append, ← List.append_assoc] at he
    obtain ⟨hlog, _⟩ := List.append_inj' he rfl
    exact h earlier c' later hlog

theorem Throughout.of_append (h : Throughout P (log ++ later)) : Throughout P log := by
  rintro earlier c between rfl
  exact h earlier c (between ++ later) (by simp)

/-- The calls before and after the one of a number. -/
theorem split_of_getElem? {m : Nat} (h : log[m]? = some c) :
    log = log.take m ++ c :: log.drop (m + 1) ∧ (log.take m).length = m := by
  obtain ⟨hm, rfl⟩ := List.getElem?_eq_some_iff.1 h
  refine ⟨?_, List.length_take_of_le (Nat.le_of_lt hm)⟩
  rw [← List.drop_eq_getElem_cons hm, List.take_append_drop]

theorem throughout_of_getElem? (h : ∀ m c, log[m]? = some c → P (log.take m) c) :
    Throughout P log := by
  rintro earlier c later rfl
  simpa using h earlier.length c (by simp)

/-- Each call meets the store that the others have made of what the last one has left. -/
def Genuine (b : Company) (s : Store) : List Call → Prop :=
  Throughout fun earlier c => c = b.call s earlier c.request

theorem Genuine.of_append (h : Genuine b s (log ++ later)) : Genuine b s log :=
  Throughout.of_append h

theorem Genuine.becomes_left (h : Genuine b s log) : s.Becomes (left s log) := by
  induction log using List.reverseRecOn with
  | nil => exact .refl s
  | append_singleton log c ih =>
    have hc : c = b.call s log c.request := h log c [] rfl
    rw [left_append, hc]
    exact ((ih h.of_append).trans (Store.becomes_run _ _)).trans (Store.becomes_serve _ _)

/-- Whatever a call meets has become of the store at the beginning. -/
theorem Genuine.becomes {earlier : List Call} (h : Genuine b s (earlier ++ c :: later)) :
    s.Becomes c.met := by
  have hc : c = b.call s earlier c.request := h earlier c later rfl
  rw [hc]
  exact h.of_append.becomes_left.trans (Store.becomes_run _ _)

/-- Whatever is left after a call has become of what it met. -/
theorem Genuine.becomes_since {earlier : List Call} (h : Genuine b s (earlier ++ c :: later)) :
    c.met.Becomes (left s (earlier ++ c :: later)) := by
  induction later using List.reverseRecOn with
  | nil =>
    rw [left_append]
    exact Store.becomes_serve _ _
  | append_singleton later last ih =>
    rw [← List.cons_append, ← List.append_assoc] at h ⊢
    have hlast : last = b.call s (earlier ++ c :: later) last.request := h _ last [] rfl
    rw [left_append, hlast]
    exact ((ih h.of_append).trans (Store.becomes_run _ _)).trans (Store.becomes_serve _ _)

/-- What a call meets has become of what an earlier one met. -/
theorem Genuine.becomes_between {before between : List Call} {r : Call}
    (h : Genuine b s (before ++ r :: between ++ c :: later)) : r.met.Becomes c.met := by
  have hc : c = b.call s (before ++ r :: between) c.request := h _ c later rfl
  rw [hc]
  exact h.of_append.becomes_since.trans (Store.becomes_run _ _)

/-! ## Contracts -/

/-- The contract of a pass in company, whose requests go with its log. -/
def within (b : Company) (s : Store) (grants : List Call → Request → Prop) :
    Contract (List Call) where
  grants := grants
  answers log r answer log' := (amid b s).serve r log = (answer, log')
  shows log cancelled := b.cancelled log.length = cancelled

variable {ε α : Type} {grants : List Call → Request → Prop} {p : Pass ε α}

/-- A pass that keeps to the contract comes out as promised, and all its calls go with the
log before them. -/
theorem Keeps.logged {q : Except ε α → List Call → Prop} (h : p.Keeps (within b s grants) [] q) :
    Genuine b s (p.run (amid b s) []).2 ∧
      Throughout (fun earlier c => grants earlier c.request) (p.run (amid b s) []).2 ∧
      q (p.run (amid b s) []).1 (p.run (amid b s) []).2 := by
  have serves (log : List Call) (r : Request)
      (hlog : Genuine b s log ∧ Throughout (fun earlier c => grants earlier c.request) log)
      (hr : grants log r) : Genuine b s (log ++ [b.call s log r]) ∧
        Throughout (fun earlier c => grants earlier c.request) (log ++ [b.call s log r]) :=
    ⟨Throughout.append hlog.1 rfl, hlog.2.append hr⟩
  obtain ⟨⟨hgenuine, hgrants⟩, hq⟩ := Keeps.run (w := amid b s) id
    (fun log => Genuine b s log ∧ Throughout (fun earlier c => grants earlier c.request) log) h
    ⟨throughout_nil, throughout_nil⟩ (fun log r hlog hr => ⟨serves log r hlog hr, rfl⟩)
    (fun _ => rfl) fun _ _ => rfl
  exact ⟨hgenuine, hgrants, hq⟩

/-- A pass that keeps to the contract comes out as promised. -/
theorem Keeps.result {q : Except ε α → List Call → Prop} (h : p.Keeps (within b s grants) log q) :
    q (p.run (amid b s) log).1 (p.run (amid b s) log).2 :=
  (Keeps.run (w := amid b s) id (fun _ => True) h trivial (fun _ _ _ _ => ⟨trivial, rfl⟩)
    (fun _ => rfl) fun _ _ => rfl).2

/-- A pass in company comes out as it does when it is run. -/
theorem keeps_run (b : Company) (s : Store) (p : Pass ε α) (log : List Call) :
    p.Keeps (within b s fun _ _ => True) log fun result log' =>
      p.run (amid b s) log = (result, log') := by
  induction p generalizing log with
  | done a => rfl
  | fail e => rfl
  | request r next ih =>
    refine ⟨trivial, fun answer log' hserve => ?_⟩
    cases hserve
    exact ih _ _
  | poll next ih =>
    intro cancelled hlook
    cases hlook
    exact ih _ _
  | publish e next ih => exact ih _

/-- A pass only adds calls to its log. -/
theorem extends_run (b : Company) (s : Store) (p : Pass ε α) (log : List Call) :
    ∃ later, (p.run (amid b s) log).2 = log ++ later := by
  induction p generalizing log with
  | done a => exact ⟨[], (List.append_nil log).symm⟩
  | fail e => exact ⟨[], (List.append_nil log).symm⟩
  | request r next ih =>
    obtain ⟨later, hlater⟩ := ih (b.call s log r).answer (log ++ [b.call s log r])
    exact ⟨b.call s log r :: later, hlater.trans (List.append_assoc ..)⟩
  | poll next ih => exact ih _ log
  | publish e next ih => exact ih log

/-- The contract of a pass in company of whose calls something is known. -/
def given (b : Company) (s : Store) (known : List Call → Call → Prop) : Contract (List Call) where
  grants _ _ := True
  answers log r answer log' := (amid b s).serve r log = (answer, log') ∧ known log (b.call s log r)
  shows log cancelled := b.cancelled log.length = cancelled

/-- A pass comes out as promised, if what the promise relies on is so for each of its calls. -/
theorem Keeps.result_given {q : Except ε α → List Call → Prop}
    (h : p.Keeps (given b s P) log q) (hP : ∀ earlier c later,
      (p.run (amid b s) log).2 = log ++ earlier ++ c :: later → P (log ++ earlier) c) :
    q (p.run (amid b s) log).1 (p.run (amid b s) log).2 := by
  induction p generalizing log with
  | done a => exact h
  | fail e => exact h
  | request r next ih =>
    let c := b.call s log r
    obtain ⟨later, hlater⟩ := extends_run b s (next c.answer) (log ++ [c])
    have hthis : P log c := by
      have hc := hP [] c later (hlater.trans (by simp))
      rwa [List.append_nil] at hc
    refine ih _ (h.2 _ _ ⟨rfl, hthis⟩) fun earlier c' later' hsplit => ?_
    have hearlier : log ++ [c] ++ earlier = log ++ c :: earlier := by simp
    rw [hearlier] at hsplit ⊢
    exact hP (c :: earlier) c' later' hsplit
  | poll next ih => exact ih _ (h _ rfl) hP
  | publish e next ih => exact ih h hP

variable {β : Type} {r : Request}

/-- What is known after a request: it is answered by the store that it meets, and its call
is in the log. -/
theorem keeps_call {q : Except Pass.Error r.Reply → List Call → Prop} (hr : grants log r)
    (hq : ∀ met, met = (left s log).run (b.others log.length) →
      q ((met.serve r).1.mapError .store) (log ++ [⟨met, r⟩])) :
    (askStore r).Keeps (within b s grants) log q := by
  refine keeps_askStore.2 ⟨hr, ?_⟩
  intro answer log' hserve
  cases hserve
  exact hq _ rfl

/-- What follows a request deals with both of its outcomes. -/
theorem Keeps.call {f : r.Reply → Pass Pass.Error β} {q : Except Pass.Error β → List Call → Prop}
    (hr : grants log r)
    (hok : ∀ met reply, met = (left s log).run (b.others log.length) →
      (met.serve r).1 = .ok reply → (f reply).Keeps (within b s grants) (log ++ [⟨met, r⟩]) q)
    (herror : ∀ met e, met = (left s log).run (b.others log.length) →
      (met.serve r).1 = .error e → q (.error (.store e)) (log ++ [⟨met, r⟩])) :
    ((askStore r).bind f).Keeps (within b s grants) log q := by
  refine keeps_bind.2 (keeps_call hr ?_)
  intro met hmet
  cases hanswer : (met.serve r).1 with
  | ok reply => exact hok met reply hmet hanswer
  | error e => exact herror met e hmet hanswer

/-! ## Passes in turn -/

/-- A company that does one thing before a pass begins. -/
def Company.once (o : Operation) : Company where
  others n := if n = 0 then [o] else []

theorem Company.forall_once {P : Operation → Prop} {o : Operation} (h : P o) (n : Nat) :
    ∀ o' ∈ (Company.once o).others n, P o' := by
  intro o' ho'
  simp only [once] at ho'
  split at ho'
  · cases List.mem_singleton.1 ho'
    exact h
  · cases ho'

/-- What comes of passes in turn, each of them in its own company, and the store after them. -/
def series (cfg : Config) (key : Key) :
    List Company → Store → List (Except Pass.Error Action) × Store
  | [], s => ([], s)
  | b :: bs, s =>
    let pass := (reconcile cfg key).run (amid b s) []
    let rest := series cfg key bs (left s pass.2)
    (pass.1 :: rest.1, rest.2)

/-- What every pass of a series keeps holds after the series. -/
theorem series_invariant {cfg : Config} {key : Key} {inv : Store → Prop} {bs : List Company}
    (hpass : ∀ b ∈ bs, ∀ s, inv s → inv (left s (calls cfg key b s))) (hs : inv s) :
    inv (series cfg key bs s).2 := by
  induction bs generalizing s with
  | nil => exact hs
  | cons b bs ih =>
    exact ih (fun b' hb' => hpass b' (List.mem_cons_of_mem _ hb'))
      (hpass b List.mem_cons_self s hs)

end Pass

end WorkloadOperator
