import WorkloadOperator.Proofs.Custody
import WorkloadOperator.Proofs.Following
import WorkloadOperator.Proofs.Retries

/-!
# Session stores outlive their workloads

A workload mounts the session store of its channel.  The session store is created before
the workload, and deleted only after the workloads of the Instance were seen to be gone,
so that a claim which a stored workload mounts is always there (`claim_of_workload`).

Two facts carry the invariant, and both are about what a pass knows: as long as it
converges, the session stores it has met are still there, and when it deletes stores, no
workload serves its Instance.  Passes for other Instances cannot spoil either of them,
because they keep to their own children.
-/

namespace WorkloadOperator

open Naming Selector Pass

namespace Operation

/-- Others create no children, delete no session stores, and give Instances names that can
stand in a selector. -/
def Shelters : Operation → Prop
  | .insertInstance i => Plain i.name
  | .insertDeployment _ _ | .request (.create _ _ _) | .request (.delete .volumeClaim _) => False
  | .insertRun _ _ | .touch _ | .requestDeletion _ | .setReady _ _ | .setData _ _ | .setPhase _ _
  | .fail _ _ _ | .failTimes _ _ _ _ | .clearFaults | .request (.getInstance _)
  | .request (.get _ _) | .request (.list _ _ _) | .request (.delete .deployment _)
  | .request (.delete .configMap _) | .request (.listRuns _ _)
  | .request (.patchFinalizers _ _ _) | .request (.patchStatus _ _ _) => True

instance : (o : Operation) → Decidable o.Shelters
  | .insertInstance i => inferInstanceAs (Decidable (Plain i.name))
  | .insertDeployment _ _ | .request (.create _ _ _) | .request (.delete .volumeClaim _) =>
    isFalse id
  | .insertRun _ _ | .touch _ | .requestDeletion _ | .setReady _ _ | .setData _ _ | .setPhase _ _
  | .fail _ _ _ | .failTimes _ _ _ _ | .clearFaults | .request (.getInstance _)
  | .request (.get _ _) | .request (.list _ _ _) | .request (.delete .deployment _)
  | .request (.delete .configMap _) | .request (.listRuns _ _)
  | .request (.patchFinalizers _ _ _) | .request (.patchStatus _ _ _) => isTrue trivial

variable {o : Operation}

theorem Shelters.not_rears (h : o.Shelters) : ¬ o.Rears := by
  intro hr
  cases o with
  | insertDeployment => exact h
  | request r => cases r <;> first | exact h | exact hr
  | insertInstance | insertRun | touch | requestDeletion | setReady | setData | setPhase | fail
  | failTimes | clearFaults => exact hr

end Operation

namespace Store

variable {s : Store} {key k : Key} {r : Request}

/-- A session store that is not deleted stays there. -/
theorem isSome_serve (hr : r ≠ .delete .volumeClaim k)
    (h : (s.find? .volumeClaim k).isSome = true) :
    ((s.serve r).2.find? .volumeClaim k).isSome = true := by
  obtain ⟨claim, hclaim⟩ := Option.isSome_iff_exists.1 h
  exact Option.isSome_iff_exists.2 ⟨claim, kept_serve (c := .volumeClaim) hclaim hr⟩

theorem isSome_perform {o : Operation} (ho : o.Shelters)
    (h : (s.find? .volumeClaim k).isSome = true) :
    ((s.perform o).find? .volumeClaim k).isSome = true := by
  by_cases hkind : o.kind? = some .volumeClaim
  · cases o with
    | request r =>
      refine isSome_serve ?_ h
      rintro rfl
      exact ho
    | insertInstance | insertDeployment | insertRun | touch | requestDeletion | setReady | setData
    | setPhase | fail | failTimes | clearFaults => cases hkind
  · rw [find?_perform_of_kind hkind]
    exact h

theorem Cleared.shelter (h : s.Cleared key) {o : Operation} (ho : o.Shelters) :
    (s.perform o).Cleared key := by
  intro k d hd hns hserves
  obtain ⟨d₀, hd₀, hresembles⟩ := resembles_perform (c := .deployment) ho.not_rears hd
  have hlabels : d.metadata.labels = d₀.metadata.labels := hresembles.labels
  refine h k d₀ hd₀ hns ?_
  simpa only [Serves, Metadata.label?, hlabels] using hserves

/-- Every claim that a workload mounts is there. -/
def Mounted (s : Store) : Prop :=
  ∀ k d, s.find? .deployment k = some d → ∀ claim ∈ d.claims,
    (s.find? .volumeClaim ⟨k.ns, claim⟩).isSome = true

theorem Mounted.perform (h : s.Mounted) {o : Operation} (ho : o.Shelters) :
    (s.perform o).Mounted := by
  intro k d hd claim hclaim
  obtain ⟨d₀, hd₀, hresembles⟩ := resembles_perform (c := .deployment) ho.not_rears hd
  have hclaims : d.claims = d₀.claims := hresembles.mounts
  exact isSome_perform ho (h k d₀ hd₀ claim (hclaims ▸ hclaim))

end Store

/-! ## What a pass relies on -/

namespace Pass

namespace Lore

variable {adapters : Config.Adapters} {key key' : Key} {l l' : Lore} {s : Store} {r : Request}

/-- The session stores that a pass has met are there as long as it converges, and no
workload is there when it deletes stores. -/
structure Backed (s : Store) (key : Key) (l : Lore) : Prop where
  sessions : ∀ i, l.sight = .seen i → i.isDeleting = false →
    ∀ k, (.volumeClaim, k) ∈ l.there → (s.find? .volumeClaim k).isSome = true
  cleared : ∀ i, l.sight = .seen i → i.isDeleting = true → l.cleared = true → s.Cleared key

theorem backed_of_unseen (hseen : ∀ i, l.sight ≠ .seen i) : Backed s key l :=
  ⟨fun i h => absurd h (hseen i), fun i h => absurd h (hseen i)⟩

theorem backed_look (sight : Sight) : Backed s key (l.look sight) :=
  ⟨fun _ _ _ _ h => (nomatch h), fun _ _ _ h => nomatch h⟩

/-- What changes neither the session stores that were met nor the list of workloads. -/
theorem Backed.congr (h : Backed s key l) (hseen : l'.sight = l.sight)
    (hthere : ∀ k, (.volumeClaim, k) ∈ l'.there → (.volumeClaim, k) ∈ l.there)
    (hcleared : l'.cleared = l.cleared) : Backed s key l' where
  sessions i hi ha k hk := h.sessions i (hseen ▸ hi) ha k (hthere k hk)
  cleared i hi hd hc := h.cleared i (hseen ▸ hi) hd (hcleared ▸ hc)

theorem Backed.slip (h : Backed s key l) (e : Store.Error) : Backed s key (l.slip e) :=
  h.congr rfl (fun _ hk => hk) rfl

theorem Backed.meet (h : Backed s key l) {c : Child} {k : Key}
    (hk : c = .volumeClaim → (s.find? .volumeClaim k).isSome = true) :
    Backed s key (l.meet c k) where
  sessions i hi ha k' hmem := by
    rcases List.mem_cons.1 hmem with he | hold
    · cases he
      exact hk rfl
    · exact h.sessions i hi ha k' hold
  cleared := h.cleared

/-- What a pass relies on survives its own request. -/
theorem Backed.serve (h : Backed s key l) (hr : Grants adapters key l r) :
    Backed (s.serve r).2 key l where
  sessions i hi ha k hk := by
    refine Store.isSome_serve ?_ (h.sessions i hi ha k hk)
    rintro rfl
    obtain ⟨_, j, hj, hdeleting, _⟩ := hr
    cases hi.symm.trans hj
    exact absurd hdeleting (by simp [ha])
  cleared i hi hd hc := by
    refine (h.cleared i hi hd hc).serve fun hemploys => ?_
    cases r with
    | create c ns object =>
      obtain ⟨_, j, hj, halive, _⟩ := hr
      cases hi.symm.trans hj
      exact absurd hd (by simp [halive])
    | getInstance | get | list | delete | listRuns | patchFinalizers | patchStatus => cases hemploys

/-- What another pass relies on survives it, too. -/
theorem Backed.serve_of_ne (h : Backed s key' l') (hown' : Own key' l') (hne : key' ≠ key)
    (hr : Grants adapters key l r) (hown : Own key l) : Backed (s.serve r).2 key' l' where
  sessions i hi ha k hk := by
    have hbelongs := hown'.there _ k hk
    have hsame := hr.find?_child hown (c := .volumeClaim) (k := k)
      (fun hk' => hne (hbelongs.unique hk')) s
    exact hsame.symm ▸ h.sessions i hi ha k hk
  cleared i hi hd hc := by
    refine (h.cleared i hi hd hc).serve fun hemploys => ?_
    cases r with
    | create c ns object =>
      cases c with
      | deployment =>
        obtain ⟨hns, hserves⟩ := hemploys
        obtain ⟨hns', hproper⟩ := hown.belongs_of_create hr
        exact hne (hproper.owner_eq hns hserves.2).symm
      | volumeClaim => cases hemploys
      | configMap => cases hemploys
    | getInstance | get | list | delete | listRuns | patchFinalizers | patchStatus => cases hemploys

/-- What a pass learns is true, unless it is told of a session store that is not there. -/
theorem Backed.learn (h : Backed s key l) (hown : Own key l) (hr : Grants adapters key l r)
    (htrue : ¬ s.Misreported r (s.serve r).1) :
    Backed (s.serve r).2 key (l.learn r (s.serve r).1) := by
  have kept := h.serve hr
  rcases Store.serve_cases s r with ⟨e, faults, hserve⟩ | hserve
  · -- after a fault nothing is learned, except from a creation that was not misreported
    rw [hserve] at kept htrue ⊢
    cases r with
    | create c ns object =>
      cases e with
      | alreadyExists what =>
        refine kept.meet ?_
        rintro rfl
        rw [Store.find?_faults]
        exact Option.isSome_iff_ne_none.2 htrue
      | notFound | conflict | unavailable | invalid => exact kept.slip _
    | list c ns selector => cases c <;> exact kept.slip e
    | getInstance | get | delete | listRuns => exact kept.slip e
    | patchFinalizers | patchStatus => exact kept.congr rfl (fun _ hk => hk) rfl
  · rw [hserve] at kept ⊢
    cases r with
    | getInstance k =>
      show Backed _ key (l.learn (.getInstance k) (.ok (s.find? .inst k)))
      cases s.find? .inst k with
      | none => exact backed_look .absent
      | some i => exact backed_look (.seen i)
    | get c k =>
      show Backed s key (l.learn (.get c k) (.ok (s.find? c.kind k)))
      cases hfind : s.find? c.kind k with
      | none => exact kept.congr rfl (fun _ hk => hk) rfl
      | some x =>
        refine kept.meet ?_
        rintro rfl
        exact Option.isSome_iff_exists.2 ⟨x, hfind⟩
    | create c ns object =>
      have hname := (hown.belongs_of_create hr).2.place.name_ne_empty
      rw [learn_create hname]
      refine kept.meet ?_
      rintro rfl
      exact (settles_answer ns hname).2
    | list c ns selector =>
      obtain ⟨_, i, hseen, hdeleting, rfl, rfl⟩ := hr
      show Backed s key (l.learn (.list c key.ns _) (.ok (s.select c.kind key.ns _)))
      cases c with
      | deployment =>
        refine ⟨kept.sessions, fun _ _ _ hempty => ?_⟩
        refine Store.cleared_of_select (hown.plain i hseen) ?_
        rw [← hown.name i hseen]
        exact List.isEmpty_iff.1 hempty
      | volumeClaim => exact kept.congr rfl (fun _ hk => hk) rfl
      | configMap => exact kept.congr rfl (fun _ hk => hk) rfl
    | delete c k =>
      rcases (s.answer (.delete c k)).1 with e | _
      · exact kept.slip e
      · exact kept
    | listRuns ns selector => exact kept
    | patchFinalizers k version finalizers =>
      rcases (s.answer (.patchFinalizers k version finalizers)).1 with e | _
      · exact kept.congr rfl (fun _ hk => hk) rfl
      · simp only [Lore.learn]
        split
        · refine backed_of_unseen ?_
          rintro i ⟨⟩
        · exact kept.congr rfl (fun _ hk => hk) rfl
    | patchStatus k version patch => exact kept.congr rfl (fun _ hk => hk) rfl

/-- What others do spoils nothing of what a pass relies on. -/
theorem Backed.perform (h : Backed s key l) {o : Operation} (ho : o.Shelters) :
    Backed (s.perform o) key l where
  sessions i hi ha k hk := Store.isSome_perform ho (h.sessions i hi ha k hk)
  cleared i hi hd hc := (h.cleared i hi hd hc).shelter ho

end Lore

end Pass

/-! ## Worlds -/

namespace Store

open Pass.Lore

variable {adapters : Config.Adapters} {key : Key} {l : Lore} {s : Store} {r : Request}

/-- A request of a pass leaves every claim there that a workload mounts. -/
theorem Mounted.serve (h : s.Mounted) (htidy : s.Tidy) (hr : Grants adapters key l r)
    (hown : Own key l) (hbacked : Backed s key l) : (s.serve r).2.Mounted := by
  intro k d hd claim hclaim
  rcases found_serve (c := .deployment) hd with hkept | ⟨_, o, rfl, _, _, rfl⟩
  · refine isSome_serve ?_ (h k d hkept claim hclaim)
    -- a claim that is deleted is the own one, and then no workload is there to mount it
    rintro rfl
    obtain ⟨_, i, hseen, hdeleting, hcleared, hlisted⟩ := hr
    obtain ⟨owner, hproper⟩ := htidy .deployment k d hkept
    obtain ⟨channel, he⟩ := hproper.mounts claim hclaim
    have hbelongs : Child.volumeClaim.Belongs owner ⟨k.ns, claim⟩ := ⟨hproper.place.ns, channel, he⟩
    obtain rfl := hbelongs.unique (hown.listed _ _ hlisted)
    exact hbacked.cleared i hseen hdeleting hcleared k d hkept hproper.place.ns
      ⟨hproper.serves (by decide), hproper.labelled⟩
  · have hmounts : claim ∈ o.claims := hclaim
    refine isSome_serve (fun he => nomatch he) ?_
    obtain ⟨_, i, hseen, halive, hns, _, owner, howns, hdue⟩ := hr
    cases hdue with
    | workload channel hchannels hserved hsession =>
      obtain ⟨hkeeps, rfl⟩ := owner.mem_claims_workload hmounts
      rw [hns, ← howns.ns]
      exact hbacked.sessions i hseen halive _ (hsession hkeeps)

/-- What is true of every store in which session stores are sheltered. -/
structure Sheltered (s : Store) : Prop where
  filed : s.Filed
  named : s.Named
  tidy : s.Tidy
  mounted : s.Mounted

theorem sheltered_empty : empty.Sheltered where
  filed := filed_empty
  named := named_empty
  tidy := tidy_empty
  mounted := by
    intro k d hd
    rw [find?_empty] at hd
    cases hd

theorem Sheltered.perform (h : s.Sheltered) {o : Operation} (ho : o.Shelters) :
    (s.perform o).Sheltered where
  filed := h.filed.perform o
  named := h.named.perform fun i he => by
    subst he
    exact ho
  tidy := h.tidy.perform ho.not_rears
  mounted := h.mounted.perform ho

end Store

/-- A pass under way follows the protocol, and what it relies on is true. -/
def Flight.Relies (adapters : Config.Adapters) (s : Store) (f : Flight) : Prop :=
  ¬ f.IsOver → ∃ l, Lore.Own f.key l ∧ Lore.Backed s f.key l ∧ f.Follows adapters True l

theorem Flight.Relies.turn {adapters : Config.Adapters} {s : Store} {f : Flight}
    (h : f.Relies adapters s) (hs : s.Sheltered) (htrue : ¬ f.Misled s) :
    (f.turn s).2.Sheltered ∧ (f.turn s).1.Relies adapters (f.turn s).2 ∧
      ∀ g : Flight, g.key ≠ f.key → g.Relies adapters s → g.Relies adapters (f.turn s).2 := by
  by_cases hover : f.IsOver
  · rw [f.turn_of_isOver hover]
    exact ⟨hs, h, fun _ _ hg => hg⟩
  · obtain ⟨l, hown, hbacked, hfollows⟩ := h hover
    have turned := hfollows.turn (fun _ => trivial) s
    generalize (f.turn s).1 = f', (f.turn s).2 = s' at turned
    cases turned with
    | quiet _ hkey hf' =>
      exact ⟨hs, fun _ => ⟨l, hkey ▸ hown, hkey ▸ hbacked, hf'⟩, fun _ _ hg => hg⟩
    | asked r next hrest hgrants hf' =>
      have htrue' : ¬ s.Misreported r (s.serve r).1 := by
        simpa only [Flight.Misled, hrest] using htrue
      refine ⟨⟨hs.filed.serve r, hs.named.serve r, hs.tidy.serve hgrants.isProper,
        hs.mounted.serve hs.tidy hgrants hown hbacked⟩, fun _ => ⟨_, ?_, ?_, hf'⟩, ?_⟩
      · exact hown.learn hs.filed hs.tidy (hs.named f.key) hgrants
      · exact hbacked.learn hown hgrants htrue'
      · intro g hne hg hgoing
        obtain ⟨l', hown', hbacked', hfollows'⟩ := hg hgoing
        exact ⟨l', hown', hbacked'.serve_of_ne hown' hne hgrants hown, hfollows'⟩

namespace World

/-- The rules of a world in which others shelter the session stores, and no pass is told
of a child that is not there. -/
def sheltering : World.Rules where
  operation _ o := o.Shelters
  turn s f := ¬ f.Misled s

instance (s : Store) (o : Operation) : Decidable (sheltering.operation s o) :=
  inferInstanceAs (Decidable o.Shelters)

instance (key : Key) : Decidable (sheltering.start key) := isTrue trivial

instance (s : Store) (f : Flight) : Decidable (sheltering.turn s f) :=
  inferInstanceAs (Decidable (¬ f.Misled s))

variable {cfg : Config}

theorem sheltering_upkeep :
    sheltering.Upkeep cfg Store.Sheltered fun s f => f.Relies cfg.adapters s where
  operation := by
    intro s o hs ho
    refine ⟨hs.perform ho, fun f hf hgoing => ?_⟩
    obtain ⟨l, hown, hbacked, hfollows⟩ := hf hgoing
    exact ⟨l, hown, hbacked.perform ho, hfollows⟩
  start := fun s key _ _ _ =>
    ⟨{}, Lore.own_initial key, Lore.backed_of_unseen fun _ h => (nomatch h),
      Flight.follows_start cfg key True⟩
  cancel := fun _ _ h hgoing => h hgoing
  finished := fun _ _ h hgoing => absurd h hgoing
  turn := fun _ _ hs hf hturn => hf.turn hs hturn

/-- A claim that a stored workload mounts is stored in its namespace, in every world that
others and any number of passes have made, wherever requests have failed and passes were
cancelled. -/
theorem claim_of_workload {moves : List Move} (lawful : Lawful sheltering.law cfg {} moves)
    {key : Key} {d : Deployment} (hd : (run cfg {} moves).store.find? .deployment key = some d)
    {claim : String} (hclaim : claim ∈ d.claims) :
    ((run cfg {} moves).store.find? .volumeClaim ⟨key.ns, claim⟩).isSome = true :=
  (sheltering_upkeep.run Store.sheltered_empty lawful).sound.mounted key d hd claim hclaim

/-- A run in which the workload cannot be created at first, and the next pass, which creates
it, is cancelled when the deletion of the Instance is requested.  A teardown has begun. -/
def deletionAfterRetry : List Move :=
  [.operation (.insertInstance {
      metadata := { name := some "bot", ns := some "tenant" }
      spec := { channels := [{ channel := .whatsapp }] } }),
    .operation (.failTimes .create .deployment 1 (.unavailable "down")),
    .start ⟨"tenant", "bot"⟩] ++ List.replicate 12 (.turn 0) ++
  [.start ⟨"tenant", "bot"⟩] ++ List.replicate 6 (.turn 1) ++
  [.cancel 1, .operation (.requestDeletion ⟨"tenant", "bot"⟩), .turn 1,
    .start ⟨"tenant", "bot"⟩, .turn 2, .turn 2]

theorem claim_of_workload_after_retry :
    Lawful sheltering.law {} {} deletionAfterRetry ∧
      ∃ d, (run {} {} deletionAfterRetry).store.find? .deployment ⟨"tenant", "bot-channel-whatsapp"⟩ =
          some d ∧ "bot-channel-whatsapp-data" ∈ d.claims ∧
        ((run {} {} deletionAfterRetry).store.find? .volumeClaim
          ⟨"tenant", "bot-channel-whatsapp-data"⟩).isSome = true := by
  have lawful : Lawful sheltering.law {} {} deletionAfterRetry := by decide +kernel
  have found : ∃ d ∈ (run {} {} deletionAfterRetry).store.find? .deployment
      ⟨"tenant", "bot-channel-whatsapp"⟩, "bot-channel-whatsapp-data" ∈ d.claims := by
    decide +kernel
  obtain ⟨d, hd, hclaim⟩ := found
  exact ⟨lawful, d, hd, hclaim, claim_of_workload lawful hd hclaim⟩

end World

end WorkloadOperator
