import WorkloadOperator.Proofs.Custody
import WorkloadOperator.Proofs.Following
import WorkloadOperator.Proofs.Recording
import WorkloadOperator.Proofs.Retries
import WorkloadOperator.Proofs.Versions

/-!
# Passes that race for one Instance

Any number of passes for one Instance may run beside each other without harm, as long as
nobody else writes.  A child that another pass was faster to create is met as one that is
there, so nothing is created twice, and the children come out as after a single pass.  Only
patches of the Instance can fail, and only because another pass was faster.

At any time one of the passes is in the lead: it has not read the Instance yet, or it holds
the version that is stored, or its last patch was accepted.  A patch of the leader is
accepted, and an accepted patch of another pass makes that pass the leader.  So when all is
over, a pass has succeeded (`harmless_races`).
-/

namespace WorkloadOperator

open Naming Store Pass

/-! ## Patches that name a version -/

namespace Store

variable {s : Store} {key : Key} {i : Instance} {r : Request}

theorem ok_patchStatus (hi : s.find? .inst key = some i) {after : Instance.Status} {patch : Json}
    (hpatch : Instance.Status.diff i.status after = some patch) :
    (s.answer (.patchStatus key i.metadata.resourceVersion patch)).1 = .ok () := by
  simp only [answer, hi, if_pos (meantFor_self i), Instance.Status.decode_merge_diff hpatch]

/-- A patch for a version that is lost is told of a conflict. -/
theorem conflict_of_lost {n : Nat} (hlost : s.Lost key n) (hi : s.find? .inst key = some i)
    (hr : r.Patches key (toString n)) : ∃ what, (s.answer r).1 = .error (.conflict what) := by
  have hstale : meantFor (some (toString n)) i = false := by
    simpa [meantFor] using hlost.absent i hi
  cases r with
  | patchFinalizers k v finalizers =>
    obtain ⟨rfl, rfl⟩ := hr
    simp only [answer, hi, hstale, Bool.false_eq_true, ↓reduceIte]
    exact ⟨_, rfl⟩
  | patchStatus k v patch =>
    obtain ⟨rfl, rfl⟩ := hr
    simp only [answer, hi, hstale, Bool.false_eq_true, ↓reduceIte]
    exact ⟨_, rfl⟩
  | getInstance | get | create | list | delete | listRuns => cases hr

end Store

/-! ## What a pass in the race knows -/

namespace Pass

namespace Lore

variable {a : Aim} {s : Store} {l l' : Lore} {r : Request}

/-- What a pass in the race has learned is true, and its version of the Instance is the one
that is stored or lost for good. -/
structure Abreast (a : Aim) (s : Store) (l : Lore) : Prop where
  there : ∀ c k, (c, k) ∈ l.there → (s.find? c.kind k).isSome = true
  missing : ∀ x, l.missing = some x → x ∉ l.there
  present : l.sight ≠ .absent
  declares : ∀ i, l.sight = .seen i → a.Declares i
  version : ∀ i, l.sight = .seen i → ∃ n ≤ s.version,
    i.metadata.resourceVersion = some (toString n) ∧
      (s.find? .inst a.key = some i ∨ s.Lost a.key n)
  slips : l.slips = []
  refused : ∀ e, l.patched = some (.error e) → ∃ what, e = .conflict what
  marked : l.marked = true → s.Marked a.key
  isMarked : ∀ i, l.sight = .seen i → i.isMarked = true → s.Marked a.key

/-- A pass that has not read the Instance, or is to read it again, knows of nothing but the
marker. -/
theorem abreast_unread {marked : Bool} (hmarked : marked = true → s.Marked a.key) :
    Abreast a s { marked } where
  there _ _ h := nomatch h
  missing _ h := nomatch h
  present h := nomatch h
  declares _ h := nomatch h
  version _ h := nomatch h
  slips := rfl
  refused _ h := nomatch h
  marked := hmarked
  isMarked _ h := nomatch h

/-- An Instance that declares the aim is the owner that the aim says. -/
theorem owner_eq {i : Instance} {o : Owner} (ho : Owns o a.key.ns i) (hi : a.Declares i) :
    o = a.owner := by
  have huid : o.uid = a.uid := Option.some.inj (ho.uid.symm.trans hi.uid)
  obtain ⟨name, ns, uid⟩ := o
  obtain ⟨rfl, rfl, _⟩ := ho
  cases huid
  rw [hi.name]
  rfl

/-- What a pass may ask for an Instance that declares the aim goes with the aim. -/
theorem Grants.aim (hr : Grants a.adapters a.key l r) (h : Abreast a s l) : a.Grants r := by
  cases r with
  | create c ns object =>
    obtain ⟨_, i, hseen, _, rfl, hmissing, o, howns, hdue⟩ := hr
    have hi := h.declares i hseen
    obtain rfl := owner_eq howns hi
    -- a declaration before would have met the child that was missed
    have hfresh := h.missing _ hmissing
    cases hdue with
    | session d hchannels hserved hkeeps =>
      refine Aim.wanted_session_of_first (hi.spec ▸ hchannels) ?_ hkeeps
      intro d' hd' hkeeps' hkey
      have hthere : (Child.volumeClaim, a.sessionKey d') ∈ l.there :=
        (hserved d' hd').session hkeeps'
      rw [hkey] at hthere
      exact hfresh hthere
    | workload d hchannels hserved hsession =>
      refine Aim.wanted_workload_of_first (hi.spec ▸ hchannels) fun d' hd' hkey => ?_
      have hthere : (Child.deployment, a.workloadKey d') ∈ l.there := (hserved d' hd').workload
      rw [hkey] at hthere
      exact hfresh hthere
    | memory hserved hwants =>
      refine Aim.wanted_memory ?_
      rw [Aim.wantsMemory, ← hi.spec]
      exact hwants
  | delete c k =>
    obtain ⟨_, i, hseen, hallows⟩ := hr
    have halive := (h.declares i hseen).alive
    cases c <;> exact absurd hallows.1 (by simp [halive])
  | getInstance | get | list | listRuns | patchFinalizers | patchStatus => trivial

/-- No pass in the race takes the marker off. -/
theorem Grants.not_releases (hr : Grants a.adapters a.key l r) (h : Abreast a s l) :
    ¬ r.Releases a.key := by
  intro hrel
  cases r with
  | patchFinalizers k version finalizers =>
    obtain ⟨_, i, hseen, _, _, ⟨_, rfl⟩ | ⟨hdeleting, _⟩⟩ := hr
    · exact hrel.2 (List.mem_append_right _ (List.mem_singleton_self _))
    · exact absurd hdeleting (by simp [(h.declares i hseen).alive])
  | getInstance | get | create | list | delete | listRuns | patchStatus => cases hrel

/-- What a pass knows stays true whatever a pass in the race asks. -/
theorem Abreast.serve (h : Abreast a s l') (hr : Grants a.adapters a.key l r) (hl : Abreast a s l) :
    Abreast a (s.serve r).2 l' where
  there c k hk := (grows_serve (hr.aim hl)).isSome (h.there c k hk)
  missing := h.missing
  present := h.present
  declares := h.declares
  version i hi := by
    obtain ⟨n, hn, hv, hfind | hlost⟩ := h.version i hi
    · exact ⟨n, Nat.le_trans hn (version_le_perform s (.request r)), hv,
        kept_or_lost hfind hn (.request r)⟩
    · have lost := hlost.perform (.request r)
      exact ⟨n, lost.given, hv, .inr lost⟩
  slips := h.slips
  refused := h.refused
  marked hm := (h.marked hm).serve (hr.not_releases hl)
  isMarked i hi hm := (h.isMarked i hi hm).serve (hr.not_releases hl)

theorem Abreast.meet (h : Abreast a s l) {c : Child} {k : Key}
    (hk : (s.find? c.kind k).isSome = true) : Abreast a s (l.meet c k) where
  there c' k' hmem := by
    rcases List.mem_cons.1 hmem with he | hold
    · cases he
      exact hk
    · exact h.there c' k' hold
  missing _ hm := nomatch hm
  present := h.present
  declares := h.declares
  version := h.version
  slips := h.slips
  refused := h.refused
  marked := h.marked
  isMarked := h.isMarked

/-- The pass that has patched the Instance knows whether it was too late. -/
theorem Abreast.patch (h : Abreast a s l) {answer : Except Store.Error Unit}
    (hconflict : ∀ e, answer = .error e → ∃ what, e = .conflict what) :
    Abreast a s { l with patched := some answer } where
  there := h.there
  missing := h.missing
  present := h.present
  declares := h.declares
  version := h.version
  slips := h.slips
  refused e he := hconflict e (Option.some.inj he)
  marked := h.marked
  isMarked := h.isMarked

/-- The pass has read the Instance. -/
theorem Abreast.look (h : Abreast a s l) (hfiled : s.Filed) {i : Instance}
    (hi : s.find? .inst a.key = some i) (hdeclares : a.Declares i) :
    Abreast a s (l.look (.seen i)) where
  there _ _ hm := nomatch hm
  missing _ hm := nomatch hm
  present hm := nomatch hm
  declares j hj := by
    cases hj
    exact hdeclares
  version j hj := by
    cases hj
    obtain ⟨n, hn, hv⟩ := (hfiled .inst a.key i hi).version
    exact ⟨n, hn, hv, .inl hi⟩
  slips := h.slips
  refused := h.refused
  marked := h.marked
  isMarked j hj hm := by
    cases hj
    exact ⟨i, hi, hm⟩

/-! ### The leader -/

/-- A pass is in the lead: nobody has patched the Instance since it read it, or it was the
last one to do so. -/
inductive Leads (s : Store) (key : Key) (l : Lore) : Prop where
  | reading (hnone : l.patched = none) (hsight : l.sight = .unseen)
  | current (i : Instance) (hnone : l.patched = none) (hseen : l.sight = .seen i)
      (hi : s.find? .inst key = some i)
  | recorded (h : l.patched = some (.ok ()))

/-- What the request of a pass comes to: the pass knows the truth, and either it is in the
lead, or it has left the Instance alone and has not lost the lead. -/
structure Raced (a : Aim) (s s' : Store) (l l' : Lore) : Prop where
  abreast : Abreast a s' l'
  lead : Leads s' a.key l' ∨
    (s'.find? .inst a.key = s.find? .inst a.key ∧ (Leads s a.key l → Leads s' a.key l'))

theorem Leads.congr {s' : Store} (h : Leads s a.key l)
    (hi : s'.find? .inst a.key = s.find? .inst a.key) (hsight : l'.sight = l.sight)
    (hpatched : l'.patched = l.patched) : Leads s' a.key l' := by
  cases h with
  | reading hnone hunseen => exact .reading (hpatched.trans hnone) (hsight.trans hunseen)
  | current i hnone hseen hfind =>
    exact .current i (hpatched.trans hnone) (hsight.trans hseen) (hi.trans hfind)
  | recorded h => exact .recorded (hpatched.trans h)

/-- A pass whose version is lost is not in the lead when it patches the Instance. -/
theorem not_leads_of_lost {i : Instance} {n : Nat} (hnone : l.patched = none)
    (hseen : l.sight = .seen i) (hv : i.metadata.resourceVersion = some (toString n))
    (hlost : s.Lost a.key n) : ¬ Leads s a.key l := by
  intro hleads
  cases hleads with
  | reading _ hunseen => cases hseen.symm.trans hunseen
  | current j _ hseen' hfind =>
    cases hseen.symm.trans hseen'
    exact hlost.absent i hfind hv
  | recorded hok => cases hnone.symm.trans hok

/-- A patch for a version that is lost changes nothing, and the pass was not in the lead. -/
theorem raced_of_lost {i j : Instance} {n : Nat} (h : Abreast a s l) (hnone : l.patched = none)
    (hseen : l.sight = .seen i) (hv : i.metadata.resourceVersion = some (toString n))
    (hlost : s.Lost a.key n) (hj : s.find? .inst a.key = some j)
    (hr : r.Patches a.key (toString n))
    (hlearn : ∀ e, l.learn r (.error e) = { l with patched := some (.error e) }) :
    Raced a s (s.answer r).2 l (l.learn r (s.answer r).1) := by
  obtain ⟨what, hconflict⟩ := conflict_of_lost hlost hj hr
  rw [answer_of_error hconflict, hconflict, hlearn]
  refine ⟨h.patch ?_, .inr ⟨rfl, fun hleads => ?_⟩⟩
  · rintro e he
    cases he
    exact ⟨what, rfl⟩
  · exact absurd hleads (not_leads_of_lost hnone hseen hv hlost)

theorem Raced.answer {goal : (c : Child) → Key → Option c.Object} (hs : a.Pursued goal s)
    (hfaults : Faultless s) (h : Abreast a s l) (hr : Grants a.adapters a.key l r) :
    Raced a s (s.answer r).2 l (l.learn r (s.answer r).1) := by
  have hserve := serve_of_no_faults hfaults r
  have kept := h.serve hr h
  rw [hserve] at kept
  obtain ⟨j, hj, hdeclares⟩ := hs.declared
  cases r with
  | getInstance k =>
    obtain ⟨hnone, _, rfl⟩ := hr
    have hanswer : (s.answer (.getInstance a.key)).1 = .ok (some j) := congrArg Except.ok hj
    rw [hanswer]
    exact ⟨h.look hs.filed hj hdeclares, .inl (.current j hnone rfl hj)⟩
  | get c k =>
    have hanswer : (s.answer (.get c k)).1 = .ok (s.find? c.kind k) := rfl
    rw [hanswer]
    cases hfind : s.find? c.kind k with
    | some x =>
      refine ⟨kept.meet (Option.isSome_iff_exists.2 ⟨x, hfind⟩), .inr ⟨rfl, fun hleads => ?_⟩⟩
      exact hleads.congr rfl rfl rfl
    | none =>
      refine ⟨⟨kept.there, ?_, kept.present, kept.declares, kept.version, kept.slips, kept.refused,
        kept.marked, kept.isMarked⟩, .inr ⟨rfl, fun hleads => hleads.congr rfl rfl rfl⟩⟩
      intro x hx hmem
      cases hx
      have hthere := kept.there c k hmem
      rw [show (s.answer (.get c k)).2.find? c.kind k = none from hfind] at hthere
      cases hthere
  | create c ns object =>
    have hname := Aim.name_ne_empty (hr.aim h)
    have hthere := (settles_answer (s := s) ns hname).2
    have hinst : (s.answer (.create c ns object)).2.find? .inst a.key = s.find? .inst a.key :=
      find?_answer_of_kind (r := .create c ns object) c.kind_ne_inst
    rw [learn_create hname]
    exact ⟨kept.meet hthere, .inr ⟨hinst, fun hleads => hleads.congr hinst rfl rfl⟩⟩
  | list c ns selector =>
    obtain ⟨_, i, hseen, hdeleting, _⟩ := hr
    exact absurd hdeleting (by simp [(h.declares i hseen).alive])
  | delete c k => exact absurd (hr.aim h) id
  | listRuns ns selector => exact ⟨h, .inr ⟨rfl, id⟩⟩
  | patchFinalizers k version finalizers =>
    obtain ⟨hnone, i, hseen, hk, rfl, ⟨_, rfl⟩ | ⟨hdeleting, _⟩⟩ := hr
    · have hmarker : Instance.marker ∈ i.metadata.finalizerList ++ [Instance.marker] :=
        List.mem_append_right _ (List.mem_singleton_self _)
      have hi := h.declares i hseen
      rw [hi.name] at hk
      cases hk
      obtain ⟨n, _, hv, hfind | hlost⟩ := h.version i hseen
      · have hok := ok_patchFinalizers hfind (i.metadata.finalizerList ++ [Instance.marker])
        have hmarked := marked_of_patch hok hmarker
        rw [hok]
        simp only [Lore.learn, if_pos hmarker, h.slips]
        exact ⟨abreast_unread fun _ => hmarked, .inl (.reading rfl rfl)⟩
      · exact raced_of_lost h hnone hseen hv hlost hj ⟨rfl, hv⟩ fun _ => rfl
    · exact absurd hdeleting (by simp [(h.declares i hseen).alive])
  | patchStatus k version patch =>
    obtain ⟨hnone, i, hseen, hk, rfl, _, after, hpatch⟩ := hr
    have hi := h.declares i hseen
    rw [hi.name] at hk
    cases hk
    obtain ⟨n, _, hv, hfind | hlost⟩ := h.version i hseen
    · rw [ok_patchStatus hfind hpatch]
      refine ⟨kept.patch ?_, .inl (.recorded rfl)⟩
      rintro e ⟨⟩
    · exact raced_of_lost h hnone hseen hv hlost hj ⟨rfl, hv⟩ fun _ => rfl

end Lore

end Pass

open Pass

/-! ## The store of a race -/

namespace Store

variable {a : Aim} {goal : (c : Child) → Key → Option c.Object} {s₀ s : Store} {key : Key}
  {l : Lore} {r : Request}

/-- The marker occurs at most once in the finalizers of the Instance under a key. -/
def MarkedOnce (s : Store) (key : Key) : Prop :=
  ∀ i, s.find? .inst key = some i → i.metadata.finalizerList.count Instance.marker ≤ 1

/-- Since an earlier store, each child in a namespace was created once at most, and it is
there if it was created. -/
def CreatedOnce (s₀ s : Store) (ns : String) : Prop :=
  ∃ gained, s.journal = s₀.journal ++ gained ∧ ∀ kind name,
    gained.count ⟨.create, kind, name⟩ ≤ 1 ∧ (⟨.create, kind, name⟩ ∈ gained →
      ∃ c : Child, c.kind = kind ∧ (s.find? c.kind ⟨ns, name⟩).isSome = true)

/-- What a store is like on which passes race for an Instance. -/
structure Course (a : Aim) (goal : (c : Child) → Key → Option c.Object) (s₀ s : Store) : Prop where
  pursued : a.Pursued goal s
  faultless : Faultless s
  createdOnce : s₀.CreatedOnce s a.key.ns
  markedOnce : s₀.MarkedOnce a.key → s.MarkedOnce a.key

theorem createdOnce_refl (s : Store) (ns : String) : s.CreatedOnce s ns :=
  ⟨[], (List.append_nil _).symm, fun _ _ => ⟨Nat.zero_le 1, fun h => nomatch h⟩⟩

theorem CreatedOnce.answer (h : s₀.CreatedOnce s a.key.ns) (hr : Lore.Grants a.adapters a.key l r)
    (hl : l.Abreast a s) : s₀.CreatedOnce (s.answer r).2 a.key.ns := by
  obtain ⟨gained, hjournal, honce⟩ := h
  obtain ⟨noted, hnoted, what⟩ := noted_answer s r
  have grows : s.Grows (s.answer r).2 := fun c k o ho => Aim.kept_answer (hr.aim hl) ho
  refine ⟨gained ++ noted, by rw [hnoted, hjournal, List.append_assoc], fun kind name => ?_⟩
  obtain ⟨hcount, hthere⟩ := honce kind name
  -- an entry that tells of no creation does not count
  have other (hother : (⟨.create, kind, name⟩ : Entry) ∉ noted) :
      (gained ++ noted).count ⟨.create, kind, name⟩ ≤ 1 ∧
        (⟨.create, kind, name⟩ ∈ gained ++ noted → ∃ c : Child, c.kind = kind ∧
          ((s.answer r).2.find? c.kind ⟨a.key.ns, name⟩).isSome = true) := by
    refine ⟨?_, fun hmem => ?_⟩
    · rw [List.count_append, List.count_eq_zero.2 hother]
      exact hcount
    · obtain ⟨c, hc, hsome⟩ := hthere ((List.mem_append.1 hmem).resolve_right hother)
      exact ⟨c, hc, grows.isSome hsome⟩
  cases what with
  | nothing => exact other (fun hmem => nomatch hmem)
  | deleted c k hdelete => exact other (by simp)
  | patched name' => exact other (by simp)
  | created c ns o hcreate hmissing =>
    subst hcreate
    have hnew := (settles_answer (s := s) ns (Aim.name_ne_empty (hr.aim hl))).2
    obtain ⟨_, _, _, _, rfl, _⟩ := hr
    by_cases hthis : (⟨.create, kind, name⟩ : Entry) = ⟨.create, c.kind, c.kind.nameOf o⟩
    · cases hthis
      refine ⟨?_, fun _ => ⟨c, rfl, hnew⟩⟩
      have hfresh : (⟨.create, c.kind, c.kind.nameOf o⟩ : Entry) ∉ gained := by
        intro hmem
        obtain ⟨c', hc', hsome⟩ := hthere hmem
        have hcc : c' = c := Classical.byContradiction fun hne => Child.kind_ne_kind hne hc'
        rw [hcc, hmissing] at hsome
        cases hsome
      rw [List.count_append, List.count_eq_zero.2 hfresh, List.count_singleton_self]
    · exact other fun hmem => hthis (List.mem_singleton.1 hmem)

theorem count_marker_of_unmarked {i : Instance} (h : i.stage = .unmarked) :
    (i.metadata.finalizerList ++ [Instance.marker]).count Instance.marker = 1 := by
  have hnone : Instance.marker ∉ i.metadata.finalizerList := by
    rw [← isMarked_iff, Instance.not_isMarked_of_unmarked h]
    exact Bool.false_ne_true
  rw [List.count_append, List.count_eq_zero.2 hnone, List.count_singleton_self]

theorem MarkedOnce.answer (h : s.MarkedOnce a.key) (hs : a.Pursued goal s)
    (hr : Lore.Grants a.adapters a.key l r) (hl : l.Abreast a s) :
    (s.answer r).2.MarkedOnce a.key := by
  cases hanswer : (s.answer r).1 with
  | error e =>
    rw [answer_of_error hanswer]
    exact h
  | ok reply =>
    intro i' hi'
    obtain ⟨j, hj, hdeclares⟩ := hs.declared
    have handled := handled_answer s r a.key
    rw [hi', hj] at handled
    cases handled with
    | kept => exact h _ hj
    | finalizers version given finalizers i hpatch hi =>
      cases hi
      subst hpatch
      obtain ⟨_, i, hseen, hk, rfl, ⟨hstage, rfl⟩ | ⟨hdeleting, _⟩⟩ := hr
      · obtain ⟨n, _, hv, hfind | hlost⟩ := hl.version i hseen
        · cases hj.symm.trans hfind
          exact Nat.le_of_eq (count_marker_of_unmarked hstage)
        · obtain ⟨what, hconflict⟩ := conflict_of_lost hlost hj (r := .patchFinalizers ..) ⟨rfl, hv⟩
          cases hanswer.symm.trans hconflict
      · exact absurd hdeleting (by simp [(hl.declares i hseen).alive])
    | status version given patch status i hpatch hi =>
      cases hi
      exact h j hj

theorem Course.answer (h : Course a goal s₀ s) (hr : Lore.Grants a.adapters a.key l r)
    (hl : l.Abreast a s) : Course a goal s₀ (s.answer r).2 where
  pursued := by
    have pursued := h.pursued.serve (hr.aim hl)
    rw [serve_of_no_faults h.faultless] at pursued
    exact pursued
  faultless := (faults_answer s r).trans h.faultless
  createdOnce := h.createdOnce.answer hr hl
  markedOnce h₀ := (h.markedOnce h₀).answer h.pursued hr hl

end Store

/-! ## The race -/

/-- A pass in the race follows the protocol, and what it knows is true. -/
structure Flight.Runs (a : Aim) (s : Store) (f : Flight) (l : Lore) : Prop where
  key : f.key = a.key
  uncancelled : f.cancelled = false
  abreast : l.Abreast a s
  follows : f.Follows a.adapters False l

theorem Flight.Runs.turn {a : Aim} {goal : (c : Child) → Key → Option c.Object} {s₀ s : Store}
    {f : Flight} {l : Lore} (h : f.Runs a s l) (hs : Course a goal s₀ s) :
    Course a goal s₀ (f.turn s).2 ∧
      (∀ (g : Flight) l', g.Runs a s l' → g.Runs a (f.turn s).2 l') ∧
      ∃ l', (f.turn s).1.Runs a (f.turn s).2 l' ∧ (l'.Leads (f.turn s).2 a.key ∨
        ((f.turn s).2.find? .inst a.key = s.find? .inst a.key ∧
          (l.Leads s a.key → l'.Leads (f.turn s).2 a.key))) := by
  have turned := h.follows.turn (fun hc => absurd hc (by simp [h.uncancelled])) s
  have hkey := (f.key_turn s).trans h.key
  have hcancelled := (f.cancelled_turn s).trans h.uncancelled
  generalize (f.turn s).1 = f', (f.turn s).2 = s' at turned hkey hcancelled ⊢
  cases turned with
  | quiet _ _ hf' =>
    exact ⟨hs, fun _ _ hg => hg, l, ⟨hkey, hcancelled, h.abreast, hf'⟩, .inr ⟨rfl, id⟩⟩
  | asked r next hrest hgrants hf' =>
    rw [h.key] at hgrants
    have others : ∀ (g : Flight) l', g.Runs a s l' → g.Runs a (s.serve r).2 l' := fun g l' hg =>
      ⟨hg.key, hg.uncancelled, hg.abreast.serve hgrants h.abreast, hg.follows⟩
    rw [serve_of_no_faults hs.faultless] at hf' others ⊢
    have raced := Lore.Raced.answer hs.pursued hs.faultless h.abreast hgrants
    exact ⟨hs.answer hgrants h.abreast, others, _, ⟨hkey, hcancelled, raced.abreast, hf'⟩,
      raced.lead⟩

namespace Flight.Runs

variable {a : Aim} {s : Store} {f : Flight} {l : Lore} {result : Except Pass.Error Action}

/-- A pass fails only because its patch of the Instance was too late. -/
theorem conflict (h : f.Runs a s l) {e : Pass.Error} (hover : f.rest.outcome? = some (.error e)) :
    ∃ what, e = .store (.conflict what) ∧ l.patched = some (.error (.conflict what)) := by
  have excused := (h.follows.ends hover).excused e rfl
  have slips (e : Store.Error) : e ∉ l.slips := by
    rw [h.abreast.slips]
    exact List.not_mem_nil
  cases e with
  | store cause =>
    have hpatched := excused.resolve_left (slips cause)
    obtain ⟨what, rfl⟩ := h.abreast.refused cause hpatched
    exact ⟨what, rfl, hpatched⟩
  | channel c cause => exact absurd excused (slips cause)
  | cancelled => exact absurd excused id
  | invariant what =>
    obtain ⟨i, hseen, hnone⟩ := excused
    cases hnone.symm.trans (h.abreast.declares i hseen).uid

/-- The leader does not fail. -/
theorem isOk (h : f.Runs a s l) (hleads : l.Leads s a.key)
    (hover : f.rest.outcome? = some result) : result.isOk = true := by
  cases result with
  | ok action => rfl
  | error e =>
    obtain ⟨what, _, hpatched⟩ := h.conflict hover
    cases hleads with
    | reading hnone => cases hnone.symm.trans hpatched
    | current i hnone => cases hnone.symm.trans hpatched
    | recorded hok => cases hok.symm.trans hpatched

/-- A pass that has succeeded leaves the Instance marked and all children there. -/
theorem accomplished (h : f.Runs a s l) (hover : f.rest.outcome? = some result)
    (hok : result.isOk = true) : s.Marked a.key ∧ a.Complete s := by
  obtain habsent | ⟨i, hseen, hdeleting | done⟩ := (h.follows.ends hover).accomplished hok
  · exact absurd habsent h.abreast.present
  · exact absurd hdeleting (by simp [(h.abreast.declares i hseen).alive])
  · have hi := h.abreast.declares i hseen
    refine ⟨done.marked.elim (h.abreast.isMarked i hseen) h.abreast.marked, ?_⟩
    refine Aim.complete_of_served (fun d hd => ?_) fun hwants => ?_
    · have serves := done.channels d (hi.spec ▸ hd)
      rw [hi.name, h.key] at serves
      exact ⟨h.abreast.there _ _ serves.workload, fun hk => h.abreast.there _ _ (serves.session hk)⟩
    · have hwants' : i.wantsMemory = true := by
        rw [Instance.wantsMemory, hi.spec]
        exact hwants
      have hthere := (done.memory hwants').resolve_right fun hslips => hslips h.abreast.slips
      rw [hi.name, h.key] at hthere
      exact h.abreast.there _ _ hthere

end Flight.Runs

namespace World

variable {a : Aim} {goal : (c : Child) → Key → Option c.Object} {s₀ : Store} {cfg : Config}
  {key : Key} {w : World}

/-- Passes start for one Instance and take turns, and nothing else happens. -/
def racing (key : Key) : Law := fun _ m =>
  match m with
  | .start k => k = key
  | .turn _ => True
  | .operation _ | .cancel _ => False

instance (key : Key) (w : World) : (m : Move) → Decidable (racing key w m)
  | .start k => inferInstanceAs (Decidable (k = key))
  | .turn _ => isTrue trivial
  | .operation _ | .cancel _ => isFalse id

/-- The race is on: all passes know the truth, and one of them is in the lead. -/
structure Race (a : Aim) (goal : (c : Child) → Key → Option c.Object) (s₀ : Store) (w : World) :
    Prop where
  course : Course a goal s₀ w.store
  runs : ∀ f ∈ w.flights, ∃ l, f.Runs a w.store l
  led : w.flights ≠ [] →
    ∃ (n : Nat) (f : Flight) (l : Lore), w.flights[n]? = some f ∧ f.Runs a w.store l ∧
      l.Leads w.store a.key

theorem Race.turn (h : Race a goal s₀ w) {n : Nat} {f : Flight} (hf : w.flights[n]? = some f) :
    Race a goal s₀ ⟨(f.turn w.store).2, w.flights.set n (f.turn w.store).1⟩ := by
  obtain ⟨l, hl⟩ := h.runs f (List.mem_of_getElem? hf)
  obtain ⟨hcourse, hothers, l', hl', hlead⟩ := hl.turn h.course
  have here {f' : Flight} : (w.flights.set n f')[n]? = some f' :=
    List.getElem?_set_self (List.getElem?_eq_some_iff.1 hf).1
  refine ⟨hcourse, fun g hg => ?_, fun _ => ?_⟩
  · rcases List.mem_or_eq_of_mem_set hg with hold | rfl
    · obtain ⟨lg, hlg⟩ := h.runs g hold
      exact ⟨lg, hothers g lg hlg⟩
    · exact ⟨l', hl'⟩
  · obtain ⟨m, g, lg, hg, hrun, hleads⟩ := h.led (List.ne_nil_of_mem (List.mem_of_getElem? hf))
    by_cases hnm : n = m
    · -- the leader itself takes the turn
      subst hnm
      cases hf.symm.trans hg
      obtain ⟨_, _, lg', hrun', hlead'⟩ := hrun.turn h.course
      exact ⟨n, _, lg', here, hrun', hlead'.elim id fun hkept => hkept.2 hleads⟩
    · rcases hlead with hnew | ⟨hsame, _⟩
      · exact ⟨n, _, l', here, hl', hnew⟩
      · exact ⟨m, g, lg, (List.getElem?_set_ne hnm).trans hg, hothers g lg hrun,
          hleads.congr hsame rfl rfl⟩

theorem Race.perform (h : Race a goal s₀ w) (hcfg : cfg.adapters = a.adapters) {m : Move}
    (hm : racing a.key w m) : Race a goal s₀ (w.perform cfg m) := by
  cases m with
  | operation o => cases hm
  | cancel n => cases hm
  | turn n =>
    simp only [World.perform]
    split
    · exact h
    · next f hf => exact h.turn hf
  | start k =>
    cases hm
    have starts : (⟨a.key, reconcile cfg a.key, false⟩ : Flight).Runs a w.store {} := {
      key := rfl
      uncancelled := rfl
      abreast := Lore.abreast_unread fun h => absurd h Bool.false_ne_true
      follows := hcfg ▸ Flight.follows_start cfg a.key False }
    refine ⟨h.course, fun f hf => ?_, fun _ => ?_⟩
    · rcases List.mem_append.1 hf with hold | hnew
      · exact h.runs f hold
      · cases List.mem_singleton.1 hnew
        exact ⟨{}, starts⟩
    · -- a pass that starts is in the lead, as it has not read the Instance yet
      exact ⟨w.flights.length, _, {}, by simp [World.perform], starts, .reading rfl rfl⟩

theorem race_run {moves : List Move} {s : Store} (hs : Course a goal s s)
    (hcfg : cfg.adapters = a.adapters) (lawful : Lawful (racing a.key) cfg ⟨s, []⟩ moves) :
    Race a goal s (run cfg ⟨s, []⟩ moves) :=
  lawful.invariant (fun _ _ h hm => h.perform hcfg hm)
    ⟨hs, fun _ hf => (nomatch hf), fun h => absurd rfl h⟩

/-! ## The end of the race -/

/-- What has become of a store on which passes have raced, once all of them are over. -/
structure Settled (cfg : Config) (key : Key) (s : Store) (w : World) : Prop where
  succeeded : ∃ f ∈ w.flights, ∃ action, f.rest.outcome? = some (.ok action)
  /-- The children are those that a single pass leaves, apart from what the store has
  given to them. -/
  children : ∀ (c : Child) (k : Key), (w.store.find? c.kind k).map (bare c.kind) =
    ((undisturbed cfg key s).find? c.kind k).map (bare c.kind)
  marked : s.MarkedOnce key → ∃ i, w.store.find? .inst key = some i ∧
    i.metadata.finalizerList.count Instance.marker = 1

/-- Passes have done no harm to each other. -/
structure Harmless (cfg : Config) (key : Key) (s : Store) (w : World) : Prop where
  /-- A pass succeeds, unless another one was faster to patch the Instance. -/
  outcome : ∀ f ∈ w.flights, ∀ result, f.rest.outcome? = some result →
    result.isOk = true ∨ ∃ what, result = .error (.store (.conflict what))
  /-- However the passes go on, they come to an end. -/
  ending : ∀ schedule : Nat → Nat, ∃ m, ∀ f,
    (w.turns cfg schedule m).flights[schedule m]? = some f → f.IsOver
  /-- No child was created twice. -/
  created : ∃ gained, w.store.journal = s.journal ++ gained ∧
    ∀ kind name, gained.count ⟨.create, kind, name⟩ ≤ 1
  settled : w.flights ≠ [] → (∀ f ∈ w.flights, f.IsOver) → Settled cfg key s w

theorem Race.settled {s : Store} (h : Race a goal s w) (hs : a.Pursued goal s)
    (hcfg : cfg.adapters = a.adapters) (hne : w.flights ≠ []) (hover : ∀ f ∈ w.flights, f.IsOver) :
    Settled cfg a.key s w := by
  obtain ⟨n, f, l, hf, hrun, hleads⟩ := h.led hne
  have hmem := List.mem_of_getElem? hf
  obtain ⟨result, hresult⟩ := Option.isSome_iff_exists.1 (hover f hmem)
  have hok := hrun.isOk hleads hresult
  obtain ⟨⟨i, hi, hmarked⟩, hcomplete⟩ := hrun.accomplished hresult hok
  refine ⟨?_, fun c k => ?_, fun honce => ⟨i, hi, ?_⟩⟩
  · cases result with
    | ok action => exact ⟨f, hmem, action, hresult⟩
    | error e => cases hok
  · rw [children_undisturbed hs hcfg, ← hcomplete.completed_eq]
    exact h.course.pursued.completed c k
  · have hle := h.course.markedOnce honce i hi
    have hpos := List.count_pos_iff.2 (isMarked_iff.1 hmarked)
    omega

theorem Race.harmless {s : Store} (h : Race a goal s w) (hs : a.Pursued goal s)
    (hcfg : cfg.adapters = a.adapters) : Harmless cfg a.key s w where
  outcome f hf result hresult := by
    obtain ⟨l, hl⟩ := h.runs f hf
    cases result with
    | ok action => exact .inl rfl
    | error e =>
      obtain ⟨what, rfl, _⟩ := hl.conflict hresult
      exact .inr ⟨what, rfl⟩
  ending := turns_end cfg w
  created := by
    obtain ⟨gained, hjournal, honce⟩ := h.course.createdOnce
    exact ⟨gained, hjournal, fun kind name => (honce kind name).1⟩
  settled := h.settled hs hcfg

/-- Passes for one Instance that is not being deleted may race, however many there are and
whatever turns they take. -/
theorem harmless_races (operations : List Operation) {i : Instance}
    (hi : (Store.empty.run operations).find? .inst key = some i) (halive : i.isDeleting = false)
    (hfaultless : Faultless (Store.empty.run operations)) {moves : List Move}
    (lawful : Lawful (racing key) cfg ⟨Store.empty.run operations, []⟩ moves) :
    Harmless cfg key (Store.empty.run operations)
      (run cfg ⟨Store.empty.run operations, []⟩ moves) := by
  have filed := filed_empty.run operations
  generalize Store.empty.run operations = s at hi hfaultless lawful filed ⊢
  have hfiled := filed .inst key i hi
  obtain ⟨uid, huid⟩ := Option.isSome_iff_exists.1 hfiled.uid
  let a : Aim := ⟨key, uid, i.spec, cfg.adapters⟩
  have hs : a.Pursued (a.completed s) s :=
    ⟨filed, ⟨i, hi, hfiled.name, huid, rfl, halive⟩, fun _ _ => rfl⟩
  have course : Course a (a.completed s) s s :=
    ⟨hs, hfaultless, createdOnce_refl s a.key.ns, id⟩
  exact (race_run course rfl lawful).harmless hs rfl

/-- Three passes for an Instance with two channels.  The first two read it before it is
marked, and the second is too late to mark it.  The last one starts then, and is too late
to record the status. -/
def threeRacers : List Move :=
  [.start ⟨"tenant", "bot"⟩, .start ⟨"tenant", "bot"⟩] ++
    (List.replicate 4 [.turn 0, .turn 1]).flatten ++ [.start ⟨"tenant", "bot"⟩] ++
    (List.replicate 16 [.turn 0, .turn 2]).flatten

theorem harmless_races_of_three :
    let operations : List Operation := [.insertInstance {
      metadata := { name := some "bot", ns := some "tenant" }
      spec := {
        channels := [{ channel := .whatsapp }, { channel := .telegram }]
        memory := some { enabled := true } } }]
    let s := Store.empty.run operations
    let w := run {} ⟨s, []⟩ threeRacers
    (∃ i, s.find? .inst ⟨"tenant", "bot"⟩ = some i ∧ i.isDeleting = false) ∧ Faultless s ∧
      Lawful (racing ⟨"tenant", "bot"⟩) {} ⟨s, []⟩ threeRacers ∧
      (∀ f ∈ w.flights, f.IsOver) ∧ w.flights.map (fun f => f.rest.outcome?.map Except.isOk) =
        [some true, some false, some false] ∧
      Harmless {} ⟨"tenant", "bot"⟩ s w := by
  intro operations s w
  have found : ∃ i ∈ s.find? .inst ⟨"tenant", "bot"⟩, i.isDeleting = false := by decide +kernel
  have lawful : Lawful (racing ⟨"tenant", "bot"⟩) {} ⟨s, []⟩ threeRacers := by decide +kernel
  have ended : ∀ f ∈ w.flights, f.IsOver := by decide +kernel
  have outcomes : w.flights.map (fun f => f.rest.outcome?.map Except.isOk) =
      [some true, some false, some false] := by decide +kernel
  obtain ⟨i, hi, halive⟩ := found
  exact ⟨⟨i, hi, halive⟩, rfl, lawful, ended, outcomes,
    harmless_races operations hi halive rfl lawful⟩

end World

end WorkloadOperator
