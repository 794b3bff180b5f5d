import WorkloadOperator.Proofs.Releasing

/-!
# On what grounds children are created

A pass creates children for the Instance that it has read last.  It has looked whether that
Instance is being deleted.  It has looked for the marker, too, unless it has put the marker on
itself: then it reads the Instance again and takes the marker for granted.  So if others take
the marker off in between, or file another Instance without one under the same name, then
children are created without a marker that would hold the Instance until they are gone.

`grounds_of_create` says that children are created under the marker but for this.
-/

namespace WorkloadOperator

namespace Pass

/-- The marker that a pass has put on is not there any more when the pass reads the Instance
again, because of what others have done in between. -/
structure MarkerLost (b : Company) (key : Key) (before : List Call) (r : Call) : Prop where
  put : ∃ p i₀, before.getLast? = some p ∧ p.Marks key.ns i₀ ∧ p.after.Marked key ∧
    r.met = p.after.run (b.others before.length)
  gone : ¬ r.met.Marked key

/-- What a pass knows of the Instance that it creates a child for. -/
structure Grounds (b : Company) (key : Key) (log : List Call)
    (i : Instance) : Prop where
  /-- It was read last, with the marker on it unless that was lost. -/
  read : ∃ before r rest, log = before ++ r :: rest ∧ r.Reads key i ∧
    (∀ c ∈ rest, ∀ k, c.request ≠ .getInstance k) ∧ (i.isMarked = true ∨ MarkerLost b key before r)
  alive : i.isDeleting = false

variable {cfg : Config} {key : Key} {b : Company} {s : Store} {adapters : Config.Adapters}
  {i : Instance}

theorem not_getInstance_of_advances {ns : String} {r : Request} (h : r.Advances adapters ns i)
    (k : Key) : r ≠ .getInstance k := by
  rintro rfl
  cases h with
  | converge halive r hr =>
    cases hr with
    | provides uid huid r hr => cases hr
  | teardown hdeleting r hr => cases hr

/-- A pass creates a child that is wanted by the Instance it goes on with. -/
theorem Next.creates {log : List Call} {child : Child} {ns : String} {object : child.Object}
    (h : Next b adapters key log (.create child ns object)) :
    ∃ i, Advancing adapters key i log ∧ i.isDeleting = false ∧ ns = key.ns ∧
      ∃ uid, i.metadata.uid = some uid ∧ i.Wants adapters ⟨i.name, key.ns, uid⟩ child object := by
  cases h with
  | advance i hlog r hr hlook =>
    cases hr with
    | converge halive r hr =>
      cases hr with
      | provides uid huid r hr =>
        cases hr with
        | create child object hwants => exact ⟨i, hlog, halive, rfl, uid, huid, hwants⟩
    | teardown hdeleting r hr => cases hr

/-- The marker is on the Instance after a pass has put it on. -/
theorem marked_after_marking {operations : List Operation} {r₀ p : Call} {i₀ : Instance}
    {later : List Call} (h : Genuine b (Store.empty.run operations) (r₀ :: p :: later))
    (h₀ : r₀.Reads key i₀) (hp : p.Marks key.ns i₀) : p.after.Marked key := by
  have hcalls : Genuine b (Store.empty.run operations) ([] ++ r₀ :: [] ++ p :: later) := h
  obtain ⟨hname, -⟩ := found_of_replaced hcalls h₀
  have hkey : (⟨key.ns, i₀.name⟩ : Key) = key := by rw [hname]
  have accepted := hp.accepted
  rw [Call.after]
  rw [hp.request, hkey] at accepted ⊢
  exact Store.marked_of_accepts accepted (List.mem_append_right _ (List.mem_singleton_self _))

/-- An Instance that is not being deleted has the marker when a pass goes on with it, unless
others have taken it off. -/
theorem marked_or_lost {operations : List Operation} {before rest : List Call} {r : Call}
    (h : Genuine b (Store.empty.run operations) (before ++ r :: rest))
    (hbefore : Prelude key i before) (hr : r.Reads key i) (halive : i.isDeleting = false) :
    i.isMarked = true ∨ MarkerLost b key before r := by
  cases hbefore with
  | nothing hstage =>
    have hstages := Instance.stage_of_not_isDeleting halive
    exact .inl (Instance.isMarked_of_alive (hstages.resolve_left hstage))
  | marking r₀ i₀ p h₀ hp =>
    by_cases hmarked : i.isMarked = true
    · exact .inl hmarked
    · have hmet : r.met = p.after.run (b.others 2) := by
        have hcall : r = b.call (Store.empty.run operations) [r₀, p] r.request := h [r₀, p] r rest rfl
        rw [hcall]
        rfl
      refine .inr ⟨⟨p, i₀, rfl, hp, marked_after_marking h h₀ hp, hmet⟩, ?_⟩
      rintro ⟨i', hi', hmarked'⟩
      cases hr.find?.symm.trans hi'
      exact hmarked hmarked'

/-- Whatever others do, and wherever requests fail and passes are cancelled, a pass creates
the children that are declared by the Instance it has read last.  That Instance is not being
deleted, and it has the marker, unless others have taken the marker off that the pass has put
on just before. -/
theorem grounds_of_create {operations : List Operation} {earlier later : List Call} {c : Call}
    (h : calls cfg key b (Store.empty.run operations) = earlier ++ c :: later) {child : Child}
    {ns : String} {object : child.Object} (hr : c.request = .create child ns object) :
    ∃ i, Grounds b key earlier i ∧ ns = key.ns ∧ ∃ uid, i.metadata.uid = some uid ∧
      i.Wants cfg.adapters ⟨i.name, key.ns, uid⟩ child object := by
  have hgenuine := h ▸ genuine_calls cfg key b (Store.empty.run operations)
  have hnext := course h
  rw [hr] at hnext
  obtain ⟨i, hlog, halive, hns, uid, huid, hwants⟩ := hnext.creates
  refine ⟨i, ⟨?_, halive⟩, hns, uid, huid, hwants⟩
  obtain ⟨before, r, rest, rfl, hbefore, hread, hrest⟩ := hlog.split
  exact ⟨before, r, rest, rfl, hread,
    fun c' hc' k => not_getInstance_of_advances (hrest c' hc') k,
    marked_or_lost hgenuine.of_append hbefore hread halive⟩

/-- An Instance that declares one channel. -/
def talkative : Instance where
  metadata := { name := some "bot", ns := some "tenant" }
  spec := { channels := [{ channel := .telegram }] }

/-- Somebody who has the Instance deleted that a pass has just marked, and files it anew. -/
def replacer : Company where
  others n :=
    if n = 2 then [.requestDeletion ⟨"tenant", "bot"⟩,
      .request (.patchFinalizers ⟨"tenant", "bot"⟩ none []), .insertInstance talkative]
    else []

/-- A pass whose Instance is replaced just before it is read again creates a workload for the
new one, which has no marker. -/
theorem grounds_of_create_after_replacement :
    let key : Key := ⟨"tenant", "bot"⟩
    ∃ earlier c later object,
      calls {} key replacer (Store.empty.run [.insertInstance talkative]) = earlier ++ c :: later ∧
      c.request = .create .deployment "tenant" object ∧
      (∀ i ∈ c.met.find? .inst key, i.isMarked = false) ∧
      ∃ i, Grounds replacer key earlier i ∧ "tenant" = key.ns ∧ ∃ uid, i.metadata.uid = some uid ∧
        i.Wants {} ⟨i.name, key.ns, uid⟩ .deployment object := by
  have created : (calls {} ⟨"tenant", "bot"⟩ replacer
      (Store.empty.run [.insertInstance talkative]))[4]?.map Call.request =
        some (.create .deployment "tenant"
          (Owner.workload ⟨"bot", "tenant", "uid-4"⟩ { channel := .telegram } {})) := by
    rfl
  have unmarked : ∀ c ∈ (calls {} ⟨"tenant", "bot"⟩ replacer
      (Store.empty.run [.insertInstance talkative]))[4]?,
        ∀ i ∈ c.met.find? .inst ⟨"tenant", "bot"⟩, i.isMarked = false := by
    decide +kernel
  obtain ⟨c, hc, hr⟩ := Option.map_eq_some_iff.1 created
  obtain ⟨hsplit, -⟩ := split_of_getElem? hc
  exact ⟨_, c, _, _, hsplit, hr, unmarked c hc, grounds_of_create hsplit hr⟩

end Pass

end WorkloadOperator
