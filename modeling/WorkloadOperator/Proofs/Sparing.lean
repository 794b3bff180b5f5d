import WorkloadOperator.Proofs.Company
import WorkloadOperator.Proofs.Opening
import WorkloadOperator.Proofs.Reflecting

/-!
# Converging spares what is there

To converge is to create what is missing, and nothing else.  Whether something is missing may
have been seen too early, if others create it in the meantime, but then the store refuses to
create it again.  So whatever is stored of a child or a Run when a pass asks something is stored
afterwards, with the same version: a memory store keeps what was written to it, and the workload
of a channel that is not declared any more stays.

This is said of each call of a pass that converges, with the store that the call meets
(`converging_spares`).
-/

namespace WorkloadOperator

namespace Store

variable {s : Store} {r : Request} {κ : Kind} {key : Key} {o : κ.Object}

/-- A request that deletes nothing keeps whatever is no Instance. -/
theorem kept_of_verb (hr : r.verb ≠ .delete) (hκ : κ ≠ .inst) (h : s.find? κ key = some o) :
    (s.serve r).2.find? κ key = some o := by
  have undeleted (c : Child) : r ≠ .delete c key := fun he => hr (by rw [he]; rfl)
  cases κ with
  | inst => exact absurd rfl hκ
  | deployment => exact kept_serve (c := .deployment) h (undeleted _)
  | volumeClaim => exact kept_serve (c := .volumeClaim) h (undeleted _)
  | configMap => exact kept_serve (c := .configMap) h (undeleted _)
  | run =>
    have hruns : (s.serve r).2.find? .run key = s.find? .run key :=
      congrArg (Dict.get? · key) (runs_serve s r)
    rw [hruns, h]

/-- What is no Instance and is there after a request was there before, or it was created. -/
theorem found_of_request (hκ : κ ≠ .inst) (h : (s.serve r).2.find? κ key = some o) :
    s.find? κ key = some o ∨ r.verb = .create ∧ r.kind = κ ∧ s.find? κ key = none := by
  have child {c : Child} {o : c.Object} (h : (s.serve r).2.find? c.kind key = some o) :
      s.find? c.kind key = some o ∨
        r.verb = .create ∧ r.kind = c.kind ∧ s.find? c.kind key = none := by
    refine (found_serve h).imp_right ?_
    rintro ⟨version, o', rfl, -, hmissing, -⟩
    exact ⟨rfl, rfl, hmissing⟩
  cases κ with
  | inst => exact absurd rfl hκ
  | deployment => exact child (c := .deployment) h
  | volumeClaim => exact child (c := .volumeClaim) h
  | configMap => exact child (c := .configMap) h
  | run =>
    have hruns : (s.serve r).2.find? .run key = s.find? .run key :=
      congrArg (Dict.get? · key) (runs_serve s r)
    exact .inl (hruns.symm.trans h)

end Store

namespace Pass

/-- A call keeps every child and every Run that it meets, and what is new is what it has asked to
create. -/
structure Call.Spares (c : Call) : Prop where
  kept : ∀ (κ : Kind) (k : Key) (o : κ.Object), κ ≠ .inst →
    c.met.find? κ k = some o → c.after.find? κ k = some o
  fresh : ∀ (κ : Kind) (k : Key) (o : κ.Object), κ ≠ .inst → c.after.find? κ k = some o →
    c.met.find? κ k = some o ∨
      c.request.verb = .create ∧ c.request.kind = κ ∧ c.met.find? κ k = none

theorem Call.spares_of_verb {c : Call} (h : c.request.verb ≠ .delete) : c.Spares where
  kept _ _ _ hκ hfound := Store.kept_of_verb h hκ hfound
  fresh _ _ _ hκ hfound := Store.found_of_request hκ hfound

variable {ε α : Type} {Q : Request → Prop} {p : Pass ε α} {b : Company} {s : Store}
  {log : List Call} {key : Key}

/-- The calls that a part adds to a log are what it asks. -/
theorem Asks.since (h : Asks Q p) (b : Company) (s : Store) (log : List Call) :
    ∃ during, (p.run (amid b s) log).2 = log ++ during ∧ ∀ c ∈ during, Q c.request := by
  have kept : p.Keeps (within b s fun _ _ => True) log fun _ log' =>
      ∃ during, log' = log ++ during ∧ ∀ c ∈ during, Q c.request := by
    refine h.keeps ⟨[], by simp, by simp⟩ fun log' r hlog' hr => ⟨trivial, ?_⟩
    obtain ⟨during, rfl, hduring⟩ := hlog'
    rintro _ _ ⟨⟩
    refine ⟨_, List.append_assoc .., fun c hc => ?_⟩
    rcases List.mem_append.1 hc with hold | hnew
    · exact hduring c hold
    · rw [List.mem_singleton.1 hnew]
      exact hr
  exact kept.result

/-- The calls of a part are those that were made before it, and what the part asks. -/
theorem Asks.mem_run (h : Asks Q p) {c : Call} (hc : c ∈ (p.run (amid b s) log).2) :
    c ∈ log ∨ Q c.request := by
  obtain ⟨during, hrun, hduring⟩ := h.since b s log
  rw [hrun] at hc
  exact (List.mem_append.1 hc).imp_right (hduring c)

theorem spares_of_kind {c : Call} (h : c.request.kind = .inst) : c.Spares := by
  refine Call.spares_of_verb fun hverb => ?_
  cases hr : c.request with
  | delete child k => exact child.kind_ne_inst (by rw [hr] at h; exact h)
  | getInstance | get | create | list | listRuns | patchFinalizers | patchStatus =>
    rw [hr] at hverb
    cases hverb

theorem spares_of_converges {adapters : Config.Adapters} {ns : String} {i : Instance} {c : Call}
    (h : c.request.Converges adapters ns i) : c.Spares := by
  refine Call.spares_of_verb ?_
  generalize c.request = r at h
  cases h with
  | provides uid huid r hr => cases hr <;> exact nofun
  | listRuns => exact nofun
  | patchStatus patch => exact nofun

/-- A pass tears nothing down: the Instance that it goes on with, if it comes so far, is not being
deleted. -/
def Converging (key : Key) (b : Company) (s : Store) : Prop :=
  ∀ i log, (opening key).run (amid b s) [] = (.ok (some i), log) → i.isDeleting = false

/-- Whatever others do, wherever requests fail and whenever a pass is cancelled: if it converges,
then each of its calls spares what is there. -/
theorem converging_spares (cfg : Config) (key : Key) (b : Company) (s : Store)
    (h : Converging key b s) : ∀ c ∈ calls cfg key b s, c.Spares := by
  intro c hc
  have opens {log : List Call} (hlog : ((opening key).run (amid b s) []).2 = log) (hc : c ∈ log) :
      c.Spares := by
    rw [← hlog] at hc
    exact ((asks_opening key).mem_run hc).elim nofun spares_of_kind
  rw [calls, reconcile_eq, run_bind] at hc
  cases hopened : (opening key).run (amid b s) [] with
  | mk result log =>
    have hlog := congrArg Prod.snd hopened
    rw [hopened] at hc
    cases result with
    | error e => exact opens hlog hc
    | ok found =>
      cases found with
      | none => exact opens hlog hc
      | some i =>
        have hconverge : proceed cfg key (some i) = converge cfg key.ns i := by
          rw [proceed, advance, h i log hopened]
          rfl
        dsimp only at hc
        rw [hconverge] at hc
        exact ((asks_converge cfg).mem_run hc).elim (opens hlog) spares_of_converges

/-- A run in which an Instance is filed that wants a memory store and declares one channel, and a
workload of a channel that it does not declare. -/
def outgrown : List Operation :=
  [.insertInstance {
      metadata := { name := some "bot", ns := some "tenant" }
      spec := { channels := [{ channel := .telegram }], memory := some { enabled := true } } },
    .insertDeployment "tenant" { metadata := { name := some "bot-channel-discord" } }]

/-- Somebody who creates the workload that a pass has just found missing, and writes to its memory
store, which the pass cannot read any more. -/
def hasty : Company where
  others n :=
    if n = 4 then
      [.insertDeployment "tenant" { metadata := { name := some "bot-channel-telegram" } }]
    else if n = 5 then
      [.request (.create .configMap "tenant" { metadata := { name := some "bot-memory" } }),
        .setData ⟨"tenant", "bot-memory"⟩ (.ofList [("memory.md", "mine")]),
        .fail .get .configMap (.unavailable "down")]
    else []
  cancelled n := n = 7

/-- The workload that somebody else has created stays when the pass tries to create it, and so does
the one that is not declared. -/
theorem converging_spares_in_haste :
    let key : Key := ⟨"tenant", "bot"⟩
    let s := Store.empty.run outgrown
    Converging key hasty s ∧ ∃ c, (calls {} key hasty s)[4]? = some c ∧
      c.request.verb = .create ∧
      (∃ o, c.met.find? .deployment ⟨"tenant", "bot-channel-telegram"⟩ = some o) ∧
      (∃ o, c.met.find? .deployment ⟨"tenant", "bot-channel-discord"⟩ = some o) ∧ c.Spares := by
  intro key s
  have alive : ∀ i ∈ ((opening key).run (amid hasty s) []).1.toOption.join,
      i.isDeleting = false := by
    decide +kernel
  have converging : Converging key hasty s := by
    intro i log hopened
    refine alive i ?_
    rw [hopened]
    rfl
  have creates : ∃ c ∈ (calls {} key hasty s)[4]?, c.request.verb = .create ∧
      (c.met.find? .deployment ⟨"tenant", "bot-channel-telegram"⟩).isSome = true ∧
      (c.met.find? .deployment ⟨"tenant", "bot-channel-discord"⟩).isSome = true := by
    decide +kernel
  obtain ⟨c, hc, hverb, hraced, hforeign⟩ := creates
  exact ⟨converging, c, hc, hverb, Option.isSome_iff_exists.1 hraced,
    Option.isSome_iff_exists.1 hforeign,
    converging_spares {} key hasty s converging c (List.mem_of_getElem? hc)⟩

end Pass

end WorkloadOperator
