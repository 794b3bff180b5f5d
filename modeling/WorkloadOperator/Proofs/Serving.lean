import WorkloadOperator.Proofs.Ownership
import WorkloadOperator.Proofs.Settling

/-!
# What serving the channels comes to

Channels are served in turn, and what is made for one of them is there when the next one is
served.  Alone with a store without faults, each step provides a session store and a workload
(`Store.provide`), so the whole is a fold over the declarations (`run_serveEach`).

What is read after the fold has a closed form: what was there before, else what the first
declaration offers that asks for it (`foldl_offers`).  `serves` says so for the children and for
the reports.
-/

namespace WorkloadOperator

open Store

namespace Store

variable {s : Store} {c c' : Child} {ns : String} {o : c.Object} {k : Key}

/-- Create a child if it is missing. -/
def provide (s : Store) (c : Child) (ns : String) (o : c.Object) : Store :=
  if (s.find? c.kind ⟨ns, c.kind.nameOf o⟩).isSome then s
  else (s.insert c.kind ns o).2.record .create c.kind (c.kind.nameOf o)

theorem provide_of_found (h : (s.find? c.kind ⟨ns, c.kind.nameOf o⟩).isSome = true) :
    s.provide c ns o = s := if_pos h

theorem provide_of_missing (h : s.find? c.kind ⟨ns, c.kind.nameOf o⟩ = none) :
    s.provide c ns o = (s.insert c.kind ns o).2.record .create c.kind (c.kind.nameOf o) :=
  if_neg (by simp [h])

theorem Faultless.provide (h : s.Faultless) (c : Child) (ns : String) (o : c.Object) :
    (s.provide c ns o).Faultless := by
  unfold Store.provide
  split
  · exact h
  · rw [Faultless, faults_record, faults_insert]
    exact h

/-- Only the table of its kind changes when a child is provided. -/
theorem table_provide_of_ne {κ : Kind} (h : c.kind ≠ κ) :
    (s.provide c ns o).table κ = s.table κ := by
  unfold provide
  split
  · rfl
  · have htable : (s.insert c.kind ns o).2.table κ = s.table κ := by
      rw [insert_eq, put, table_setTable_of_ne _ _ h]
      cases κ <;> rfl
    rw [← htable]
    cases κ <;> rfl

theorem find?_provide_of_kind {κ : Kind} (h : c.kind ≠ κ) :
    (s.provide c ns o).find? κ k = s.find? κ k := by
  rw [find?, table_provide_of_ne h, find?]

/-- What is there is kept when a child is provided. -/
theorem find?_provide_of_found {x : c'.Object} (h : s.find? c'.kind k = some x) :
    (s.provide c ns o).find? c'.kind k = some x := by
  unfold provide
  split
  · exact h
  · next hmissing =>
    rw [find?_record]
    exact Aim.find?_insert_of_found (Option.not_isSome_iff_eq_none.1 hmissing) h

/-- After a child was provided, it is there, as it was or as it was to be made. -/
theorem bare_provide (hns : (Resource.metadata o).ns = some ns) :
    ((s.provide c ns o).find? c.kind k).map (bare c.kind) =
      ((s.find? c.kind k).map (bare c.kind)).or
        (if ⟨ns, c.kind.nameOf o⟩ = k then some (bare c.kind o) else none) := by
  cases hfound : s.find? c.kind ⟨ns, c.kind.nameOf o⟩ with
  | some x =>
    rw [provide_of_found (by rw [hfound]; rfl)]
    split
    · next hk =>
      rw [← hk, hfound]
      rfl
    · rw [Option.or_none]
  | none =>
    rw [provide_of_missing hfound, find?_record, find?_insert]
    split
    · next hk =>
      rw [← hk, hfound]
      exact congrArg some (bare_insert hns)
    · rw [Option.or_none]

end Store

namespace Pass

variable {a : Aim} {i : Instance} {s : Store} {d : Channel.Declaration}

/-! ## One channel -/

/-- Alone with a store without faults, a child is provided. -/
theorem run_ensure {α : Type} {c : Child} {k : Key} {o : c.Object} {present : c.Object → α}
    {created : Pass Store.Error α} {raced fresh : α} (hs : s.Faultless)
    (hname : c.kind.nameOf o = k.name) (hne : k.name ≠ "")
    (hcreated : ∀ t, created.run (alone false) t = (.ok fresh, t)) :
    (ensure c k o present created raced).run (alone false) s =
      (.ok (((s.find? c.kind k).map present).getD fresh), s.provide c k.ns o) := by
  have hread : (ask (.get c k)).run (alone false) s = (.ok (s.find? c.kind k), s) := by
    rw [run_ask, serve_of_no_faults hs]
    rfl
  refine (run_bind_ok hread).trans ?_
  cases hfound : s.find? c.kind k with
  | some x =>
    rw [provide_of_found (by rw [hname, hfound]; rfl)]
    rfl
  | none =>
    have hanswer : s.answer (.create c k.ns o) =
        (.ok (s.insert c.kind k.ns o).1, s.provide c k.ns o) := by
      rw [provide_of_missing (by rw [hname]; exact hfound)]
      simp only [answer, hname, if_neg hne, hfound]
      rfl
    have hcreate : ((ask (.create c k.ns o)).attempt (δ := Store.Error)).run (alone false) s =
        (.ok (.ok (s.insert c.kind k.ns o).1), s.provide c k.ns o) := by
      refine run_attempt_eq ?_
      rw [run_ask, serve_of_no_faults hs, hanswer]
    exact (run_bind_ok hcreate).trans (hcreated _)

/-- The session store of a channel is provided, if it keeps one. -/
def tendSession (a : Aim) (s : Store) (d : Channel.Declaration) : Store :=
  if d.channel.keepsSession then
    s.provide .volumeClaim a.key.ns (a.owner.sessionStore d a.adapters)
  else s

/-- The store after a channel was served. -/
def tend (a : Aim) (s : Store) (d : Channel.Declaration) : Store :=
  (tendSession a s d).provide .deployment a.key.ns (a.owner.workload d a.adapters)

theorem faultless_tendSession (h : s.Faultless) : (tendSession a s d).Faultless := by
  unfold tendSession
  split
  · exact h.provide ..
  · exact h

theorem find?_tendSession_of_kind {κ : Kind} {k : Key} (h : κ ≠ .volumeClaim) :
    (tendSession a s d).find? κ k = s.find? κ k := by
  unfold tendSession
  split
  · exact find?_provide_of_kind (c := .volumeClaim) h.symm
  · rfl

/-- A channel is served by what is there, and by what is provided for it. -/
theorem run_serveChannel (hs : s.Faultless) :
    (serveChannel a.adapters i a.owner d).run (alone false) s = (.ok (link a s d), tend a s d) := by
  have hworkload : (provideWorkload a.adapters i a.owner d).run (alone false) (tendSession a s d) =
      (.ok (link a s d), tend a s d) := by
    have hlink : link a (tendSession a s d) d = link a s d := by
      rw [link, find?_tendSession_of_kind (by decide), link]
    rw [← hlink, provideWorkload_eq]
    exact run_ensure (c := .deployment) (k := a.workloadKey d) (faultless_tendSession hs) rfl
      (by simp [Aim.workloadKey, Naming.workload]) fun _ => rfl
  unfold serveChannel
  split
  · next hkeeps =>
    have hsession : (provideSession a.adapters i a.owner d).run (alone false) s =
        (.ok (), tendSession a s d) := by
      rw [provideSession_eq, tendSession, if_pos hkeeps]
      exact run_ensure (c := .volumeClaim) (k := a.sessionKey d) hs rfl
        (by simp [Aim.sessionKey, Naming.sessionStore]) fun _ => rfl
    exact (run_bind_ok hsession).trans hworkload
  · next hkeeps =>
    rwa [tendSession, if_neg hkeeps] at hworkload

theorem find?_tend_of_found {c : Child} {k : Key} {x : c.Object}
    (h : s.find? c.kind k = some x) : (tend a s d).find? c.kind k = some x := by
  refine find?_provide_of_found ?_
  unfold tendSession
  split
  · exact find?_provide_of_found h
  · exact h

theorem table_tend {κ : Kind} (hworkload : κ ≠ .deployment) (hsession : κ ≠ .volumeClaim) :
    (tend a s d).table κ = s.table κ := by
  refine (table_provide_of_ne (c := .deployment) hworkload.symm).trans ?_
  unfold tendSession
  split
  · exact table_provide_of_ne (c := .volumeClaim) hsession.symm
  · rfl

theorem faultless_tend (h : s.Faultless) : (tend a s d).Faultless :=
  (faultless_tendSession h).provide ..

/-! ## All channels in turn -/

/-- What is reported of channels that are served in turn. -/
def reports (a : Aim) : Store → List Channel.Declaration → List Channel.Report
  | _, [] => []
  | s, d :: ds => ⟨d.channel, link a s d⟩ :: reports a (tend a s d) ds

theorem run_serveEach (hs : s.Faultless) (ds : List Channel.Declaration) :
    (serveEach a.adapters i a.owner ds).run (alone false) s =
      (.ok (reports a s ds), ds.foldl (tend a) s) := by
  induction ds generalizing s with
  | nil => rfl
  | cons d ds ih =>
    have hchannel : ((serveChannel a.adapters i a.owner d).mapError
        (Pass.Error.channel d.channel)).run (alone false) s = (.ok (link a s d), tend a s d) := by
      rw [run_mapError, run_serveChannel hs]
      rfl
    have hcheckpoint : (checkpoint : Pass Pass.Error Unit).run (alone false) s = (.ok (), s) := rfl
    exact (run_bind_ok hcheckpoint).trans ((run_bind_ok hchannel).trans
      (run_bind_ok (ih (faultless_tend hs))))

theorem length_reports (s : Store) (ds : List Channel.Declaration) :
    (reports a s ds).length = ds.length := by
  induction ds generalizing s with
  | nil => rfl
  | cons d ds ih => exact congrArg (· + 1) (ih _)

/-- A channel is reported as it was found after those before it were served. -/
theorem getElem?_reports (s : Store) (earlier : List Channel.Declaration)
    (d : Channel.Declaration) (later : List Channel.Declaration) :
    (reports a s (earlier ++ d :: later))[earlier.length]? =
      some ⟨d.channel, link a (earlier.foldl (tend a) s) d⟩ := by
  induction earlier generalizing s with
  | nil => rfl
  | cons e earlier ih => exact ih _

theorem foldl_tend_found {c : Child} {k : Key} {x : c.Object} (ds : List Channel.Declaration)
    (h : s.find? c.kind k = some x) : (ds.foldl (tend a) s).find? c.kind k = some x := by
  induction ds generalizing s with
  | nil => exact h
  | cons d ds ih => exact ih (find?_tend_of_found h)

theorem foldl_tend_table {κ : Kind} (ds : List Channel.Declaration)
    (hworkload : κ ≠ .deployment) (hsession : κ ≠ .volumeClaim) :
    (ds.foldl (tend a) s).table κ = s.table κ := by
  induction ds generalizing s with
  | nil => rfl
  | cons d ds ih => exact ih.trans (table_tend hworkload hsession)

/-- The child that a declaration asks for under a key. -/
def offer (a : Aim) (d : Channel.Declaration) : (c : Child) → Key → Option c.Object
  | .deployment, k => if a.workloadKey d = k then some (a.owner.workload d a.adapters) else none
  | .volumeClaim, k =>
    if d.channel.keepsSession ∧ a.sessionKey d = k then some (a.owner.sessionStore d a.adapters)
    else none
  | .configMap, _ => none

/-- After a channel was served, what it asks for is there, as it was or as it was to be made. -/
theorem bare_tend (c : Child) (k : Key) : ((tend a s d).find? c.kind k).map (bare c.kind) =
    ((s.find? c.kind k).map (bare c.kind)).or (offer a d c k) := by
  cases c with
  | deployment =>
    refine (bare_provide (c := .deployment) rfl).trans ?_
    rw [find?_tendSession_of_kind (κ := Child.deployment.kind) (by decide)]
    rfl
  | volumeClaim =>
    have htend : (tend a s d).find? .volumeClaim k = (tendSession a s d).find? .volumeClaim k :=
      find?_provide_of_kind (c := .deployment) (by decide)
    refine (congrArg (Option.map (bare .volumeClaim)) htend).trans ?_
    simp only [tendSession, offer]
    split
    · next hkeeps =>
      simp only [hkeeps, true_and]
      exact bare_provide (c := .volumeClaim) rfl
    · next hkeeps =>
      rw [if_neg fun h => hkeeps h.1, Option.or_none]
  | configMap =>
    have htable : (tend a s d).table .configMap = s.table .configMap :=
      table_tend (by decide) (by decide)
    rw [offer, Option.or_none, find?, show (tend a s d).table Child.configMap.kind = _ from htable]
    rfl

/-- What is read of a store after declarations were tended to one after the other is what was there,
else what the first one offers that offers something. -/
theorem foldl_offers {β σ δ : Type} (f : σ → δ → σ) (view : σ → Option β) (offered : δ → Option β)
    (h : ∀ s d, view (f s d) = (view s).or (offered d)) (s : σ) (ds : List δ) :
    view (ds.foldl f s) = (view s).or (ds.findSome? offered) := by
  induction ds generalizing s with
  | nil => exact Option.or_none.symm
  | cons d ds ih =>
    rw [List.foldl_cons, ih, h, List.findSome?_cons, Option.or_assoc]
    cases offered d <;> rfl

theorem bare_foldl_tend (s : Store) (ds : List Channel.Declaration) (c : Child) (k : Key) :
    ((ds.foldl (tend a) s).find? c.kind k).map (bare c.kind) =
      ((s.find? c.kind k).map (bare c.kind)).or (ds.findSome? (offer a · c k)) :=
  foldl_offers (tend a) (fun s => (s.find? c.kind k).map (bare c.kind)) (offer a · c k)
    (fun _ _ => bare_tend c k) s ds

/-! ## The declarations as a whole -/

theorem findSome?_guard {β δ : Type} (p : δ → Prop) [DecidablePred p] (f : δ → β) (ds : List δ) :
    ds.findSome? (fun d => if p d then some (f d) else none) = (ds.find? fun d => p d).map f := by
  induction ds with
  | nil => rfl
  | cons d ds ih =>
    rw [List.findSome?_cons, List.find?_cons]
    by_cases hd : p d <;> simp [hd, ih]

/-- What the declarations offer is what is wanted. -/
theorem findSome?_offer {c : Child} (hc : c ≠ .configMap) (k : Key) :
    a.spec.channels.findSome? (offer a · c k) = a.wanted c k := by
  obtain ⟨ns, name⟩ := k
  by_cases hns : ns = a.key.ns
  · subst hns
    cases c with
    | deployment => simp [offer, Aim.wanted, Aim.workloadKey, findSome?_guard]
    | volumeClaim => simp [offer, Aim.wanted, Aim.sessionKey, findSome?_guard]
    | configMap => exact absurd rfl hc
  · have helsewhere : a.key.ns ≠ ns := fun h => hns h.symm
    cases c with
    | deployment => simp [offer, Aim.wanted, Aim.workloadKey, hns, helsewhere]
    | volumeClaim => simp [offer, Aim.wanted, Aim.sessionKey, hns, helsewhere]
    | configMap => exact absurd rfl hc

/-- What a declaration is reported as, after those before it. -/
inductive Linked (a : Aim) (s : Store) (earlier : List Channel.Declaration)
    (d : Channel.Declaration) : Channel.Link → Prop where
  /-- The workload was there before, and it is ready. -/
  | connected (found : Deployment) (hfound : s.find? .deployment (a.workloadKey d) = some found)
      (hready : 1 ≤ found.readyReplicas) : Linked a s earlier d .connected
  /-- The workload was there before, and it is not ready. -/
  | disconnected (found : Deployment) (hfound : s.find? .deployment (a.workloadKey d) = some found)
      (hready : found.readyReplicas < 1) : Linked a s earlier d .disconnected
  /-- The workload was not there, and this is the first declaration of its channel. -/
  | first (hmissing : s.find? .deployment (a.workloadKey d) = none)
      (hfirst : ∀ e ∈ earlier, e.channel ≠ d.channel) : Linked a s earlier d .pending
  /-- The workload was not there, and its channel was declared before. -/
  | again (hmissing : s.find? .deployment (a.workloadKey d) = none) (e : Channel.Declaration)
      (he : e ∈ earlier) (hsame : e.channel = d.channel) : Linked a s earlier d .disconnected

/-- The replicas that are ready are no matter of the stamps on a workload. -/
theorem link_eq (a : Aim) (s : Store) (d : Channel.Declaration) :
    link a s d =
      (((s.find? .deployment (a.workloadKey d)).map (bare .deployment)).map linkOf).getD
        .pending := by
  rw [Option.map_map]
  rfl

theorem linked (s : Store) (earlier : List Channel.Declaration) (d : Channel.Declaration) :
    Linked a s earlier d (link a (earlier.foldl (tend a) s) d) := by
  have hread : ((earlier.foldl (tend a) s).find? .deployment (a.workloadKey d)).map
      (bare .deployment) = ((s.find? .deployment (a.workloadKey d)).map (bare .deployment)).or
        (earlier.findSome? (offer a · .deployment (a.workloadKey d))) :=
    bare_foldl_tend s earlier .deployment (a.workloadKey d)
  rw [link_eq, hread]
  cases hfound : s.find? .deployment (a.workloadKey d) with
  | some found =>
    show Linked a s earlier d (linkOf found)
    unfold linkOf
    split
    · next hready => exact .connected found hfound hready
    · next hready => exact .disconnected found hfound (Int.not_le.1 hready)
  | none =>
    rw [Option.map_none, Option.none_or]
    cases hoffer : earlier.findSome? (offer a · .deployment (a.workloadKey d)) with
    | none =>
      refine .first hfound fun e he hsame => ?_
      have hnothing := List.findSome?_eq_none_iff.1 hoffer e he
      rw [offer, if_pos (by simp only [Aim.workloadKey, hsame])] at hnothing
      cases hnothing
    | some x =>
      obtain ⟨e, he, hx⟩ := List.exists_of_findSome?_eq_some hoffer
      simp only [offer] at hx
      split at hx
      · next hkey =>
        cases hx
        exact .again hfound e he (Naming.workload_eq_iff.1 (congrArg Key.name hkey)).2
      · cases hx

/-- What serving the channels of an aim comes to. -/
structure Serves (a : Aim) (s : Store) (reports : List Channel.Report) (s' : Store) : Prop where
  /-- There is a report for each declaration, in their order. -/
  length : reports.length = a.spec.channels.length
  reported : ∀ earlier d later, a.spec.channels = earlier ++ d :: later →
    ∃ link, reports[earlier.length]? = some ⟨d.channel, link⟩ ∧ Linked a s earlier d link
  /-- What was there is as it was. -/
  kept : ∀ (c : Child) (k : Key) (x : c.Object), s.find? c.kind k = some x →
    s'.find? c.kind k = some x
  /-- Of workloads and session stores that were missing, those that are wanted are there, as the
  first declaration asks for them. -/
  provided : ∀ (c : Child) (k : Key), c ≠ .configMap → s.find? c.kind k = none →
    (s'.find? c.kind k).map (bare c.kind) = a.wanted c k
  /-- There is nothing else that changes. -/
  table : ∀ κ, κ ≠ .deployment → κ ≠ .volumeClaim → s'.table κ = s.table κ

/-- The aim of an Instance that is served for an owner. -/
def aimOf (adapters : Config.Adapters) (i : Instance) (o : Owner) : Aim :=
  ⟨⟨o.ns, o.name⟩, o.uid, i.spec, adapters⟩

/-- In a store without faults, an Instance that is not cancelled has its channels served: each is
reported as it was found after the ones before it, and each child that is missing is created for
the first declaration that asks for it. -/
theorem serves (adapters : Config.Adapters) (i : Instance) (o : Owner) (s : Store)
    (hs : s.Faultless) :
    ∃ reports s', (serveChannels adapters i o).run (alone false) s = (.ok reports, s') ∧
      Serves (aimOf adapters i o) s reports s' := by
  let a := aimOf adapters i o
  refine ⟨reports a s a.spec.channels, a.spec.channels.foldl (tend a) s,
    run_serveEach (a := a) hs a.spec.channels, ?_⟩
  constructor
  case length => exact length_reports ..
  case reported =>
    intro earlier d later hchannels
    rw [hchannels]
    exact ⟨_, getElem?_reports .., linked s earlier d⟩
  case kept => exact fun c k x h => foldl_tend_found _ h
  case provided =>
    intro c k hc hmissing
    rw [bare_foldl_tend, hmissing, Option.map_none, Option.none_or, findSome?_offer hc]
  case table => exact fun κ hworkload hsession => foldl_tend_table _ hworkload hsession

/-- An Instance that declares channels twice. -/
def repetitive : Instance where
  metadata := { name := some "bot" }
  spec := { channels := [{ channel := .telegram }, { channel := .whatsapp, secret := some "first" },
    { channel := .whatsapp, secret := some "second" }, { channel := .slack },
    { channel := .telegram, secret := some "third" }] }

/-- A run in which the workloads of two of these channels are there, and one of them is ready. -/
def halfServed : List Operation :=
  [.insertDeployment "tenant" { metadata := { name := some "bot-channel-telegram" } },
    .insertDeployment "tenant" { metadata := { name := some "bot-channel-slack" } },
    .setReady ⟨"tenant", "bot-channel-telegram"⟩ 2]

theorem serves_repetitive :
    let o : Owner := ⟨"bot", "tenant", "uid"⟩
    let s := Store.empty.run halfServed
    s.Faultless ∧ ∃ reports s', (serveChannels {} repetitive o).run (alone false) s =
        (.ok reports, s') ∧ Serves (aimOf {} repetitive o) s reports s' ∧
      reports = [⟨.telegram, .connected⟩, ⟨.whatsapp, .pending⟩, ⟨.whatsapp, .disconnected⟩,
        ⟨.slack, .disconnected⟩, ⟨.telegram, .connected⟩] := by
  intro o s
  have faultless : s.Faultless := by decide +kernel
  obtain ⟨reports, s', hrun, hserves⟩ := serves {} repetitive o s faultless
  have hreports : ((serveChannels {} repetitive o).run (alone false) s).1 =
      .ok [⟨.telegram, .connected⟩, ⟨.whatsapp, .pending⟩, ⟨.whatsapp, .disconnected⟩,
        ⟨.slack, .disconnected⟩, ⟨.telegram, .connected⟩] := by decide +kernel
  rw [hrun] at hreports
  exact ⟨faultless, reports, s', hrun, hserves, Except.ok.inj hreports⟩

end Pass

end WorkloadOperator
