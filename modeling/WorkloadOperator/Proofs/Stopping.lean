import WorkloadOperator.Proofs.Absorbing
import WorkloadOperator.Proofs.Finishing
import WorkloadOperator.Proofs.Serving
import WorkloadOperator.Proofs.Sparing

/-!
# A channel that fails stops the plan

Which declaration fails depends on all requests before it, as each of them may use up a fault.  But
the pass does nothing else up to there than a pass for the declarations before (`serveEach_stops`),
and it comes out as if nothing were declared after them (`run_serveEach_failing`).  So all that is
left to tell is what a channel leaves behind that has failed: it has had its last request refused,
and it may have created its session store (`keeps_failing`).
-/

namespace WorkloadOperator

open Store Naming

namespace Store

variable {s s' t : Store} {c : Child} {k : Key} {o x : c.Object} {ns : String} {κ : Kind}
  {r : Request} {e : Store.Error}

theorem table_serve_get : (s.serve (.get c k)).2.table κ = s.table κ := by
  rcases serve_cases s (.get c k) with ⟨e, faults, hserve⟩ | hserve
  · rw [hserve, table_faults]
  · rw [hserve]
    rfl

/-- A request that is refused leaves all objects as they are. -/
theorem table_serve_of_error (h : (s.serve r).1 = .error e) :
    (s.serve r).2.table κ = s.table κ := by
  rcases serve_cases s r with ⟨e, faults, hserve⟩ | hserve
  · rw [hserve, table_faults]
  · rw [hserve] at h ⊢
    rw [answer_of_error h]

/-- A store has the objects of another one, and at most one child more, which was missing. -/
inductive Gains (c : Child) (k : Key) (o : c.Object) (s s' : Store) : Prop where
  | nothing (h : ∀ κ, s'.table κ = s.table κ) : Gains c k o s s'
  | child (x : c.Object) (hmissing : s.find? c.kind k = none) (hx : bare c.kind x = bare c.kind o)
      (hfiled : s'.table c.kind = (s.table c.kind).insert k x)
      (hrest : ∀ κ, κ ≠ c.kind → s'.table κ = s.table κ) : Gains c k o s s'

theorem Gains.of_table (h : Gains c k o t s') (ht : ∀ κ, t.table κ = s.table κ) :
    Gains c k o s s' := by
  cases h with
  | nothing h => exact .nothing fun κ => (h κ).trans (ht κ)
  | child x hmissing hx hfiled hrest =>
    rw [find?, ht] at hmissing
    rw [ht] at hfiled
    exact .child x hmissing hx hfiled fun κ hκ => (hrest κ hκ).trans (ht κ)

theorem Gains.table_of_table (h : Gains c k o s t) (ht : ∀ κ, s'.table κ = t.table κ) :
    Gains c k o s s' := by
  cases h with
  | nothing h => exact .nothing fun κ => (ht κ).trans (h κ)
  | child x hmissing hx hfiled hrest =>
    exact .child x hmissing hx ((ht _).trans hfiled) fun κ hκ => (ht κ).trans (hrest κ hκ)

theorem Gains.table (h : Gains c k o s s') (hκ : κ ≠ c.kind) : s'.table κ = s.table κ := by
  cases h with
  | nothing h => exact h κ
  | child x hmissing hx hfiled hrest => exact hrest κ hκ

/-- A child that was created has been missing. -/
theorem gains_create (hns : (Resource.metadata o).ns = some ns)
    (h : (s.serve (.create c ns o)).1 = .ok x) :
    Gains c ⟨ns, c.kind.nameOf o⟩ o s (s.serve (.create c ns o)).2 := by
  have accepts : s.Accepts (.create c ns o) := by
    rw [Accepts, h]
    rfl
  rw [serve_of_accepts accepts] at h ⊢
  simp only [answer] at h ⊢
  split
  · next hname =>
    rw [if_pos hname] at h
    cases h
  next hname =>
  rw [if_neg hname] at h
  split
  · next hthere =>
    rw [if_pos hthere] at h
    cases h
  next hfresh =>
  have hinsert (κ : Kind) : ((s.insert c.kind ns o).2.record .create c.kind
      (c.kind.nameOf o)).table κ = (s.insert c.kind ns o).2.table κ := by
    cases κ <;> rfl
  have hbump (κ : Kind) : s.bump.table κ = s.table κ := by
    cases κ <;> rfl
  refine .child (s.insert c.kind ns o).1 (Option.not_isSome_iff_eq_none.1 hfresh)
    (bare_insert hns) ?_ fun κ hκ => ?_
  · rw [hinsert, insert_eq, nameOf_insert, put, table_setTable, hbump]
  · rw [hinsert, insert_eq, put, table_setTable_of_ne _ _ hκ.symm, hbump]

end Store

namespace Pass

variable {α σ : Type} {s : Store} {log : List Call} {adapters : Config.Adapters} {i : Instance}
  {o : Owner} {d : Channel.Declaration}

/-! ## One channel -/

/-- Calls were added to a log, and the last one was refused for this cause. -/
def Refused (cause : Store.Error) (log log' : List Call) : Prop :=
  ∃ during last, log' = log ++ during ++ [last] ∧ last.answer = .error cause

theorem Refused.of_append {cause : Store.Error} {log before log' : List Call}
    (h : Refused cause (log ++ before) log') : Refused cause log log' := by
  obtain ⟨during, last, rfl, hlast⟩ := h
  exact ⟨before ++ during, last, by simp, hlast⟩

/-- A child was provided, or a request for it was refused. -/
def Ensured (c : Child) (k : Key) (child : c.Object) (s : Store) (log : List Call) :
    Except Store.Error α → List Call → Prop
  | .ok _, log' => (∃ during, log' = log ++ during) ∧ Gains c k child (left s log) (left s log')
  | .error cause, log' =>
    Refused cause log log' ∧ ∀ κ, (left s log').table κ = (left s log).table κ

/-- The contract of a pass that is alone with a store, and asks what it likes. -/
abbrev secluded (s : Store) : Contract (List Call) := within {} s fun _ _ => True

/-- A request meets what the one before it has left. -/
theorem of_answers {r : Request} {answer : r.Answer} {log' : List Call}
    (h : (secluded s).answers log r answer log') :
    ((left s log).serve r).1 = answer ∧ log' = log ++ [⟨left s log, r⟩] :=
  ⟨(Prod.mk.inj h).1, (Prod.mk.inj h).2.symm⟩

theorem left_of_answers {r : Request} {answer : r.Answer} {log' : List Call}
    (h : (secluded s).answers log r answer log') : left s log' = ((left s log).serve r).2 := by
  rw [(of_answers h).2, left_append, Call.after]

theorem refused_of_answers {r : Request} {cause : Store.Error} {log' : List Call}
    (h : (secluded s).answers log r (.error cause) log') :
    Refused cause log log' ∧ ∀ κ, (left s log').table κ = (left s log).table κ := by
  obtain ⟨hanswer, rfl⟩ := of_answers h
  refine ⟨⟨[], ⟨left s log, r⟩, by simp, hanswer⟩, fun κ => ?_⟩
  rw [left_of_answers h]
  exact table_serve_of_error hanswer

theorem keeps_ensured {c : Child} {k : Key} {child : c.Object} {present : c.Object → α}
    {created : Pass Store.Error α} {raced : α} (hquiet : Quiet created)
    (hplace : (Resource.metadata child).ns = some k.ns ∧ c.kind.nameOf child = k.name) :
    (ensure c k child present created raced).Keeps (secluded s) log (Ensured c k child s log) := by
  have hread {answer log'} (ha : (secluded s).answers log (.get c k) answer log') (κ : Kind) :
      (left s log').table κ = (left s log).table κ := by
    rw [left_of_answers ha]
    exact table_serve_get
  refine keeps_ensure hquiet trivial (fun x log' ha => ⟨⟨_, (of_answers ha).2⟩, .nothing (hread ha)⟩)
    (fun e log' ha => refused_of_answers ha) fun log' ha => ⟨trivial, ?_, ?_, ?_⟩
  · intro x log'' ha' _
    have hgains := gains_create hplace.1 (of_answers ha').1
    rw [← left_of_answers ha', hplace.2] at hgains
    refine ⟨?_, hgains.of_table (hread ha)⟩
    rw [(of_answers ha').2, (of_answers ha).2]
    exact ⟨_, List.append_assoc ..⟩
  · intro what log'' ha'
    refine ⟨?_, .nothing fun κ => ((refused_of_answers ha').2 κ).trans (hread ha κ)⟩
    rw [(of_answers ha').2, (of_answers ha).2]
    exact ⟨_, List.append_assoc ..⟩
  · intro e log'' _ ha'
    obtain ⟨hrefused, htable⟩ := refused_of_answers ha'
    rw [(of_answers ha).2] at hrefused
    exact ⟨hrefused.of_append, fun κ => (htable κ).trans (hread ha κ)⟩

/-- What a channel has left behind that has failed: its session store at most. -/
structure Remnant (adapters : Config.Adapters) (o : Owner) (d : Channel.Declaration)
    (s s' : Store) : Prop where
  gains : Gains .volumeClaim ⟨o.ns, sessionStore o.name d.channel⟩ (o.sessionStore d adapters) s s'
  sessionless : d.channel.keepsSession = false → s'.volumeClaims = s.volumeClaims

/-- A channel fails with the answer to its last request. -/
theorem keeps_failing : (serveChannel adapters i o d).Keeps (secluded s) log fun result log' =>
    ∀ cause, result = .error cause →
      Refused cause log log' ∧ Remnant adapters o d (left s log) (left s log') := by
  have hworkload (log : List Call) : (provideWorkload adapters i o d).Keeps (secluded s) log
      (Ensured .deployment ⟨o.ns, workload o.name d.channel⟩ (o.workload d adapters) s log) := by
    rw [provideWorkload_eq]
    exact keeps_ensured (quiet_publish _ _) ⟨rfl, rfl⟩
  unfold serveChannel
  split
  · next hkeeps =>
    have hsession : (provideSession adapters i o d).Keeps (secluded s) log
        (Ensured .volumeClaim ⟨o.ns, sessionStore o.name d.channel⟩ (o.sessionStore d adapters) s
          log) := by
      rw [provideSession_eq]
      exact keeps_ensured (quiet_publish _ _) ⟨rfl, rfl⟩
    refine Keeps.bind hsession ?_ ?_
    · rintro _ log₁ ⟨⟨before, rfl⟩, hgains⟩
      refine (hworkload _).mono ?_
      rintro _ log' h cause rfl
      obtain ⟨hrefused, htable⟩ := h
      exact ⟨hrefused.of_append, hgains.table_of_table htable, fun h => nomatch hkeeps.symm.trans h⟩
    · rintro _ log' ⟨hrefused, htable⟩ cause ⟨⟩
      exact ⟨hrefused, .nothing htable, fun _ => htable .volumeClaim⟩
  · refine (hworkload log).mono ?_
    rintro _ log' h cause rfl
    obtain ⟨hrefused, htable⟩ := h
    exact ⟨hrefused, .nothing htable, fun _ => htable .volumeClaim⟩

/-! ## Channels in turn -/

theorem serveEach_cons (d : Channel.Declaration) (ds : List Channel.Declaration) :
    serveEach adapters i o (d :: ds) =
      checkpoint.bind fun _ =>
        ((serveChannel adapters i o d).mapError (.channel d.channel)).bind fun link =>
          (serveEach adapters i o ds).bind fun reports => .done (⟨d.channel, link⟩ :: reports) :=
  rfl

/-- To serve two rows of declarations is to serve the first row, and then the second one. -/
theorem serveEach_append (earlier ds : List Channel.Declaration) :
    serveEach adapters i o (earlier ++ ds) =
      (serveEach adapters i o earlier).bind fun reports =>
        (serveEach adapters i o ds).bind fun reports' => .done (reports ++ reports') := by
  induction earlier with
  | nil => exact (bind_done_right _).symm
  | cons d earlier ih =>
    rw [List.cons_append, serveEach_cons, serveEach_cons, ih]
    simp only [bind_assoc, bind_done, List.cons_append]

/-- What becomes of declarations is what becomes of the first one, and then of the others. -/
theorem run_serveEach_cons {w : Surroundings σ} {t : σ} (hw : w.isCancelled t = false)
    (ds : List Channel.Declaration) :
    (serveEach adapters i o (d :: ds)).run w t =
      match (serveChannel adapters i o d).run w t with
      | (.error cause, t') => (.error (.channel d.channel cause), t')
      | (.ok link, t') =>
        match (serveEach adapters i o ds).run w t' with
        | (.error e, t'') => (.error e, t'')
        | (.ok reports, t'') => (.ok (⟨d.channel, link⟩ :: reports), t'') := by
  have hcheckpoint : (checkpoint : Pass Pass.Error Unit).run w t = (.ok (), t) := by
    simp only [checkpoint, run, hw]
    rfl
  rw [serveEach_cons, run_bind, hcheckpoint]
  dsimp only
  rw [run_bind, run_mapError]
  obtain ⟨result, t'⟩ := (serveChannel adapters i o d).run w t
  cases result with
  | error cause => rfl
  | ok link =>
    show ((serveEach adapters i o ds).bind _).run w t' = _
    rw [run_bind]
    dsimp only
    obtain ⟨result, t''⟩ := (serveEach adapters i o ds).run w t'
    cases result <;> rfl

/-- If a declaration fails after those before it were served, then that is what comes of them all,
whatever is declared later. -/
theorem run_serveEach_failing {w : Surroundings σ} {earlier : List Channel.Declaration}
    {reports : List Channel.Report} {cause : Store.Error} {t t₁ t' : σ}
    (hw : w.isCancelled t₁ = false)
    (hearlier : (serveEach adapters i o earlier).run w t = (.ok reports, t₁))
    (hd : (serveChannel adapters i o d).run w t₁ = (.error cause, t'))
    (later : List Channel.Declaration) :
    (serveEach adapters i o (earlier ++ d :: later)).run w t =
      (.error (.channel d.channel cause), t') := by
  rw [serveEach_append, run_bind, hearlier]
  dsimp only
  rw [run_bind, run_serveEach_cons hw, hd]

/-- If declarations cannot be served, then one of them has failed, after those before it were
served as if they were all. -/
theorem serveEach_stops {w : Surroundings σ} (hw : ∀ t, w.isCancelled t = false)
    {ds : List Channel.Declaration} {e : Pass.Error} {t t' : σ}
    (h : (serveEach adapters i o ds).run w t = (.error e, t')) :
    ∃ earlier d later cause reports t₁, ds = earlier ++ d :: later ∧ e = .channel d.channel cause ∧
      (serveEach adapters i o earlier).run w t = (.ok reports, t₁) ∧
      (serveChannel adapters i o d).run w t₁ = (.error cause, t') := by
  induction ds generalizing t with
  | nil => cases h
  | cons d ds ih =>
    rw [run_serveEach_cons (hw t)] at h
    cases hchannel : (serveChannel adapters i o d).run w t with
    | mk result t₁ =>
      rw [hchannel] at h
      cases result with
      | error cause =>
        cases h
        exact ⟨[], d, ds, cause, [], t, rfl, rfl, rfl, hchannel⟩
      | ok link =>
        cases hrest : (serveEach adapters i o ds).run w t₁ with
        | mk result t₂ =>
          simp only [hrest] at h
          cases result with
          | ok reports => cases h
          | error e' =>
            cases h
            obtain ⟨earlier, d', later, cause, reports, t₂, rfl, he, hearlier, hd'⟩ := ih hrest
            refine ⟨d :: earlier, d', later, cause, ⟨d.channel, link⟩ :: reports, t₂, rfl, he, ?_, hd'⟩
            rw [run_serveEach_cons (hw t), hchannel]
            simp only [hearlier]

/-! ## Which requests are made -/

theorem asks_attends : Asks (Attends adapters o d) (serveChannel adapters i o d) := by
  have hsession : Asks (Attends adapters o d) (provideSession adapters i o d) := by
    rw [provideSession_eq]
    exact asks_ensure (quiet_publish _ _) (.inl .readSession) (.inl .createSession)
  have hworkload : Asks (Attends adapters o d) (provideWorkload adapters i o d) := by
    rw [provideWorkload_eq]
    exact asks_ensure (quiet_publish _ _) (.inl .readWorkload) (.inr rfl)
  unfold serveChannel
  split
  · exact hsession.bind fun _ => hworkload
  · exact hworkload

theorem asks_attendsEach (ds : List Channel.Declaration) :
    Asks (fun r => ∃ d ∈ ds, Attends adapters o d r) (serveEach adapters i o ds) := by
  induction ds with
  | nil => rfl
  | cons d ds ih =>
    refine stays_checkpoint.bind fun _ => ?_
    refine ((asks_attends.imp fun r hr => ⟨d, List.mem_cons_self, hr⟩).mapError _).bind fun _ => ?_
    exact (ih.imp fun r ⟨d', hd', hr⟩ => ⟨d', List.mem_cons_of_mem _ hd', hr⟩).bind fun _ => rfl

theorem kind_of_attends {r : Request} (h : Attends adapters o d r) :
    r.kind = .deployment ∨ r.kind = .volumeClaim := by
  rcases h with h | rfl
  · cases h with
    | readSession | createSession => exact .inr rfl
    | readWorkload => exact .inl rfl
  · exact .inl rfl

/-- Alone with a store, a part changes objects of the kinds only that it asks for. -/
theorem Asks.table {ε : Type} {Q : Request → Prop} {p : Pass ε α} {κ : Kind} (h : Asks Q p)
    (hQ : ∀ r, Q r → r.kind ≠ κ) :
    (left s (p.run (amid {} s) log).2).table κ = (left s log).table κ := by
  have kept : p.Keeps (secluded s) log fun _ log' =>
      (left s log').table κ = (left s log).table κ := by
    refine h.keeps rfl fun log' r hlog' hr => ⟨trivial, fun answer log'' ha => ?_⟩
    rw [left_of_answers ha, table_serve_of_kind (hQ r hr), hlog']
  exact kept.result

/-! ## The plan as a whole -/

/-- What comes of declarations that are served in turn, alone with a store, and the calls that are
made for them. -/
def plan (adapters : Config.Adapters) (i : Instance) (o : Owner) (s : Store)
    (ds : List Channel.Declaration) : Except Pass.Error (List Channel.Report) × List Call :=
  (serveEach adapters i o ds).run (amid {} s) []

/-- The plan stops at a declaration, for this cause. -/
structure Stops (adapters : Config.Adapters) (i : Instance) (o : Owner) (s : Store)
    (cause : Store.Error) (earlier : List Channel.Declaration) (d : Channel.Declaration)
    (later : List Channel.Declaration) : Prop where
  /-- The plan for the declarations before it succeeds. -/
  served : ∃ reports, (plan adapters i o s earlier).1 = .ok reports
  /-- The calls of that plan are all for these declarations. -/
  before : ∀ c ∈ (plan adapters i o s earlier).2, ∃ d' ∈ earlier, Attends adapters o d' c.request
  /-- What is declared later makes no difference: the outcome and the calls are those of the plan for
  the declarations up to the one that fails. -/
  stopped : plan adapters i o s (earlier ++ d :: later) = plan adapters i o s (earlier ++ [d])
  /-- The calls for the declarations before it are made here, too, and after them there are but calls
  for the declaration that fails, up to the one that is refused. -/
  refused : ∃ during last, (plan adapters i o s (earlier ++ d :: later)).2 =
      (plan adapters i o s earlier).2 ++ during ++ [last] ∧ last.answer = .error cause ∧
      ∀ c ∈ during ++ [last], Attends adapters o d c.request
  /-- What is left are the objects that the other plan leaves, and a session store at most. -/
  remnant : Remnant adapters o d (left s (plan adapters i o s earlier).2)
    (left s (plan adapters i o s (earlier ++ d :: later)).2)
  untouched : ∀ κ, κ ≠ .deployment → κ ≠ .volumeClaim →
    (left s (plan adapters i o s (earlier ++ d :: later)).2).table κ = s.table κ

/-- If the channels of an Instance cannot be served, alone with a store and not cancelled, then the
plan stops at one of them and fails with what this one was refused. -/
theorem plan_stops (adapters : Config.Adapters) (i : Instance) (o : Owner) (s : Store)
    (e : Pass.Error) (h : (plan adapters i o s i.spec.channels).1 = .error e) :
    ∃ earlier d later cause, i.spec.channels = earlier ++ d :: later ∧
      e = .channel d.channel cause ∧ Stops adapters i o s cause earlier d later := by
  have hrun : (serveEach adapters i o i.spec.channels).run (amid {} s) [] =
      (.error e, (plan adapters i o s i.spec.channels).2) := Prod.ext h rfl
  obtain ⟨earlier, d, later, cause, reports, log, hchannels, he, hearlier, hd⟩ :=
    serveEach_stops (fun _ => rfl) hrun
  rw [hchannels] at hd
  have hlog : (plan adapters i o s earlier).2 = log := congrArg Prod.snd hearlier
  have hkinds (κ : Kind) (hworkload : κ ≠ .deployment) (hsession : κ ≠ .volumeClaim)
      (r : Request) (hr : ∃ d' ∈ earlier ++ d :: later, Attends adapters o d' r) : r.kind ≠ κ := by
    obtain ⟨d', -, hr⟩ := hr
    rcases kind_of_attends hr with hkind | hkind
    · exact fun h => hworkload (h.symm.trans hkind)
    · exact fun h => hsession (h.symm.trans hkind)
  obtain ⟨⟨during, last, hcalls, hlast⟩, hremnant⟩ :=
    keeps_failing.result (p := serveChannel adapters i o d) cause (congrArg Prod.fst hd)
  obtain ⟨added, hadded, hattends⟩ :=
    asks_attends.since (p := serveChannel adapters i o d) {} s log
  rw [hd] at hcalls hadded hremnant
  refine ⟨earlier, d, later, cause, hchannels, he, ?_⟩
  constructor
  case served => exact ⟨reports, congrArg Prod.fst hearlier⟩
  case before =>
    intro c hc
    exact ((asks_attendsEach earlier).mem_run hc).resolve_left List.not_mem_nil
  case stopped =>
    exact (run_serveEach_failing rfl hearlier hd later).trans
      (run_serveEach_failing rfl hearlier hd []).symm
  case refused =>
    rw [hlog]
    refine ⟨during, last, hcalls, hlast, ?_⟩
    rw [hcalls, List.append_assoc] at hadded
    rw [List.append_cancel_left hadded]
    exact hattends
  case remnant =>
    rw [hlog]
    exact hremnant
  case untouched =>
    intro κ hworkload hsession
    exact (asks_attendsEach (earlier ++ d :: later)).table (hkinds κ hworkload hsession)

/-- Two faults for workloads: the next one seems to be there already, and the one after it cannot
be created. -/
def hindered : List Operation :=
  [.failTimes .create .deployment 1 (.alreadyExists "workload"),
    .failTimes .create .deployment 1 (.unavailable "quota")]

theorem plan_stops_hindered :
    let i : Instance := { spec := { channels :=
      [{ channel := .telegram }, { channel := .whatsapp }, { channel := .whatsapp }] } }
    let s := Store.empty.run hindered
    (plan {} i ⟨"bot", "tenant", "uid"⟩ s i.spec.channels).1 =
        .error (.channel .whatsapp (.unavailable "quota")) ∧
      (∃ earlier d later cause, i.spec.channels = earlier ++ d :: later ∧
        Pass.Error.channel .whatsapp (.unavailable "quota") = .channel d.channel cause ∧
        Stops {} i ⟨"bot", "tenant", "uid"⟩ s cause earlier d later) ∧
      (left s (plan {} i ⟨"bot", "tenant", "uid"⟩ s i.spec.channels).2).names .volumeClaim "tenant" =
        ["bot-channel-whatsapp-data"] ∧
      (left s (plan {} i ⟨"bot", "tenant", "uid"⟩ s i.spec.channels).2).names .deployment "tenant" =
        [] := by
  intro i s
  have failed : (plan {} i ⟨"bot", "tenant", "uid"⟩ s i.spec.channels).1 =
      .error (.channel .whatsapp (.unavailable "quota")) := by decide +kernel
  exact ⟨failed, plan_stops {} i _ s _ failed, by decide +kernel, by decide +kernel⟩

end Pass

end WorkloadOperator
