import WorkloadOperator.Pass.Error

/-!
# Contracts of passes

What is known of the surroundings of a pass changes with every answer that the
pass gets.  A contract says what may be asked with which knowledge, how it may be
answered, and what is known then.  `Keeps` says that a pass keeps to a contract
whatever it is answered, and that it ends as promised.

The lemmas follow the ways in which passes are put together, so that a pass is
dealt with part by part.  `Keeps.run` brings a contract back to runs: if the
surroundings answer as the contract says, then a pass that keeps to it comes out
as promised.
-/

namespace WorkloadOperator

namespace Pass

/-- What a pass may ask and be told, for knowledge in `σ`. -/
structure Contract (σ : Type) where
  /-- Whether a request may be asked. -/
  grants : σ → Request → Prop
  /-- Whether a request may be answered so, and what may be known then. -/
  answers : σ → (r : Request) → r.Answer → σ → Prop
  /-- Whether the pass may see that it was cancelled, or that it was not. -/
  shows : σ → Bool → Prop

variable {ε δ α β σ : Type}

/-- A pass keeps to a contract, and it ends as promised. -/
def Keeps (c : Contract σ) : Pass ε α → σ → (Except ε α → σ → Prop) → Prop
  | .done a, s, q => q (.ok a) s
  | .fail e, s, q => q (.error e) s
  | .request r next, s, q =>
    c.grants s r ∧ ∀ answer s', c.answers s r answer s' → (next answer).Keeps c s' q
  | .poll next, s, q => ∀ cancelled, c.shows s cancelled → (next cancelled).Keeps c s q
  | .publish _ next, s, q => next.Keeps c s q

variable {c : Contract σ} {s : σ}

/-- A promise may be weakened. -/
theorem Keeps.mono {p : Pass ε α} {q q' : Except ε α → σ → Prop} (h : p.Keeps c s q)
    (hq : ∀ result s, q result s → q' result s) : p.Keeps c s q' := by
  induction p generalizing s with
  | done a => exact hq _ _ h
  | fail e => exact hq _ _ h
  | request r next ih => exact ⟨h.1, fun answer s' ha => ih answer (h.2 answer s' ha)⟩
  | poll next ih => exact fun cancelled hc => ih cancelled (h cancelled hc)
  | publish e next ih => exact ih h

/-- Two promises may be kept at once. -/
theorem Keeps.and {p : Pass ε α} {q q' : Except ε α → σ → Prop} (h : p.Keeps c s q)
    (h' : p.Keeps c s q') : p.Keeps c s fun result s => q result s ∧ q' result s := by
  induction p generalizing s with
  | done a => exact ⟨h, h'⟩
  | fail e => exact ⟨h, h'⟩
  | request r next ih => exact ⟨h.1, fun answer s' ha => ih answer (h.2 answer s' ha) (h'.2 answer s' ha)⟩
  | poll next ih => exact fun cancelled hc => ih cancelled (h cancelled hc) (h' cancelled hc)
  | publish e next ih => exact ih h h'

/-! ## Parts of passes -/

theorem keeps_ofExcept {result : Except ε α} {q : Except ε α → σ → Prop} :
    (ofExcept result).Keeps c s q ↔ q result s := by
  cases result <;> exact Iff.rfl

/-- What is promised of the first part is what the second part needs. -/
theorem keeps_resume {p : Pass ε α} {f : Except ε α → Pass δ β} {q : Except δ β → σ → Prop} :
    (p.resume f).Keeps c s q ↔ p.Keeps c s fun result s => (f result).Keeps c s q := by
  induction p generalizing s with
  | done a => exact Iff.rfl
  | fail e => exact Iff.rfl
  | request r next ih =>
    exact and_congr_right fun _ => forall_congr' fun answer => forall_congr' fun s' =>
      imp_congr_right fun _ => ih answer
  | poll next ih => exact forall_congr' fun cancelled => imp_congr_right fun _ => ih cancelled
  | publish e next ih => exact ih

theorem keeps_bind {p : Pass ε α} {f : α → Pass ε β} {q : Except ε β → σ → Prop} :
    (p.bind f).Keeps c s q ↔ p.Keeps c s fun
      | .ok a, s => (f a).Keeps c s q
      | .error e, s => q (.error e) s := by
  rw [bind_eq_resume, keeps_resume]
  refine iff_of_eq (congrArg (p.Keeps c s) ?_)
  funext result s'
  cases result <;> rfl

/-- What follows a part of a pass may rely on what is promised of that part. -/
theorem Keeps.bind {p : Pass ε α} {f : α → Pass ε β} {m : Except ε α → σ → Prop}
    {q : Except ε β → σ → Prop} (h : p.Keeps c s m)
    (hok : ∀ a s', m (.ok a) s' → (f a).Keeps c s' q)
    (herror : ∀ e s', m (.error e) s' → q (.error e) s') : (p.bind f).Keeps c s q := by
  refine keeps_bind.2 (h.mono ?_)
  intro result s' hm
  cases result with
  | ok a => exact hok a s' hm
  | error e => exact herror e s' hm

theorem keeps_mapError {g : ε → δ} {p : Pass ε α} {q : Except δ α → σ → Prop} :
    (p.mapError g).Keeps c s q ↔ p.Keeps c s fun result s => q (result.mapError g) s := by
  simp only [mapError_eq_resume, keeps_resume, keeps_ofExcept]

theorem keeps_attempt {p : Pass ε α} {q : Except δ (Except ε α) → σ → Prop} :
    p.attempt.Keeps c s q ↔ p.Keeps c s fun result s => q (.ok result) s := by
  rw [attempt_eq_resume, keeps_resume]
  exact Iff.rfl

/-- What follows the attempt of a part deals with both of its outcomes. -/
theorem Keeps.attempt_bind {p : Pass ε α} {f : Except ε α → Pass δ β} {m : Except ε α → σ → Prop}
    {q : Except δ β → σ → Prop} (h : p.Keeps c s m)
    (hf : ∀ result s', m result s' → (f result).Keeps c s' q) : (p.attempt.bind f).Keeps c s q :=
  keeps_bind.2 (keeps_attempt.2 (h.mono hf))

theorem keeps_ask {r : Request} {q : Except Store.Error r.Reply → σ → Prop} :
    (ask r).Keeps c s q ↔
      c.grants s r ∧ ∀ answer s', c.answers s r answer s' → q answer s' := by
  refine and_congr_right fun _ => forall_congr' fun answer => forall_congr' fun s' =>
    imp_congr_right fun _ => ?_
  cases answer <;> exact Iff.rfl

theorem keeps_askStore {r : Request} {q : Except Pass.Error r.Reply → σ → Prop} :
    (askStore r).Keeps c s q ↔ c.grants s r ∧ ∀ answer s', c.answers s r answer s' →
      q (answer.mapError .store) s' := by
  rw [askStore, keeps_mapError, keeps_ask]

theorem keeps_discard {child : Child} {key : Key} {q : Except Store.Error Unit → σ → Prop} :
    (discard child key).Keeps c s q ↔ c.grants s (.delete child key) ∧
      ∀ answer s', c.answers s (.delete child key) answer s' →
        q (Store.Error.ignoreMissing answer) s' := by
  refine and_congr_right fun _ => forall_congr' fun answer => forall_congr' fun s' =>
    imp_congr_right fun _ => ?_
  cases h : Store.Error.ignoreMissing answer <;> simp only [h] <;> exact Iff.rfl

theorem keeps_checkpoint {q : Except Pass.Error Unit → σ → Prop} :
    checkpoint.Keeps c s q ↔ (c.shows s true → q (.error .cancelled) s) ∧
      (c.shows s false → q (.ok ()) s) := by
  constructor
  · intro h
    exact ⟨h true, h false⟩
  · rintro ⟨hc, hg⟩ (_ | _) hb
    · exact hg hb
    · exact hc hb

/-! ## Parts that teach nothing -/

/-- A pass keeps to a contract, and what is known stays the same. -/
abbrev Stays (c : Contract σ) (p : Pass ε α) (s : σ) : Prop := p.Keeps c s fun _ s' => s' = s

/-- A request that is granted and teaches nothing, whatever the answer. -/
def Contract.Idle (c : Contract σ) (s : σ) (r : Request) : Prop :=
  c.grants s r ∧ ∀ answer s', c.answers s r answer s' → s' = s

/-- What follows a part that teaches nothing starts with what was known before. -/
theorem Stays.before {p : Pass ε α} {f : α → Pass ε β} {q : Except ε β → σ → Prop}
    (h : p.Stays c s) (hf : ∀ a, (f a).Keeps c s q) (herror : ∀ e, q (.error e) s) :
    (p.bind f).Keeps c s q := by
  refine Keeps.bind h ?_ ?_
  · rintro a s' rfl
    exact hf a
  · rintro e s' rfl
    exact herror e

theorem Stays.bind {p : Pass ε α} {f : α → Pass ε β} (h : p.Stays c s)
    (hf : ∀ a, (f a).Stays c s) : (p.bind f).Stays c s :=
  h.before hf fun _ => rfl

theorem Stays.attempt {p : Pass ε α} (h : p.Stays c s) : (p.attempt (δ := δ)).Stays c s :=
  keeps_attempt.2 h

theorem Stays.mapError {p : Pass ε α} (h : p.Stays c s) (g : ε → δ) : (p.mapError g).Stays c s :=
  keeps_mapError.2 h

theorem stays_ask {r : Request} (h : c.Idle s r) : (ask r).Stays c s := keeps_ask.2 h

theorem stays_askStore {r : Request} (h : c.Idle s r) : (askStore r).Stays c s :=
  (stays_ask h).mapError _

theorem stays_discard {child : Child} {key : Key} (h : c.Idle s (.delete child key)) :
    (discard child key).Stays c s :=
  keeps_discard.2 h

theorem stays_tell (e : Event) : (tell (ε := ε) e).Stays c s := rfl

theorem stays_checkpoint : checkpoint.Stays c s :=
  keeps_checkpoint.2 ⟨fun _ => rfl, fun _ => rfl⟩

/-! ## Runs -/

/-- A pass that keeps to a contract comes out as promised in surroundings that answer
as the contract says, as long as their states are sound.  What is known is a view of
their states, which shows no events. -/
theorem Keeps.run_viewed {τ : Type} (view : τ → σ) (sound : τ → Prop) {w : Surroundings τ}
    {p : Pass ε α} {q : Except ε α → σ → Prop} {t : τ} (h : p.Keeps c (view t) q) (ht : sound t)
    (serves : ∀ t r, sound t → c.grants (view t) r →
      sound (w.serve r t).2 ∧ c.answers (view t) r (w.serve r t).1 (view (w.serve r t).2))
    (shows : ∀ t, c.shows (view t) (w.isCancelled t))
    (publish : ∀ e t, sound t → sound (w.publish e t) ∧ view (w.publish e t) = view t) :
    sound (p.run w t).2 ∧ q (p.run w t).1 (view (p.run w t).2) := by
  induction p generalizing t with
  | done a => exact ⟨ht, h⟩
  | fail e => exact ⟨ht, h⟩
  | request r next ih =>
    obtain ⟨hsound, hanswers⟩ := serves t r ht h.1
    exact ih _ (h.2 _ _ hanswers) hsound
  | poll next ih => exact ih _ (h _ (shows t)) ht
  | publish e next ih =>
    obtain ⟨hsound, hview⟩ := publish e t ht
    exact ih (hview ▸ h) hsound

/-- The same in surroundings in which events leave no trace. -/
theorem Keeps.run {τ : Type} (view : τ → σ) (sound : τ → Prop) {w : Surroundings τ}
    {p : Pass ε α} {q : Except ε α → σ → Prop} {t : τ} (h : p.Keeps c (view t) q) (ht : sound t)
    (serves : ∀ t r, sound t → c.grants (view t) r →
      sound (w.serve r t).2 ∧ c.answers (view t) r (w.serve r t).1 (view (w.serve r t).2))
    (shows : ∀ t, c.shows (view t) (w.isCancelled t)) (publish : ∀ e t, w.publish e t = t) :
    sound (p.run w t).2 ∧ q (p.run w t).1 (view (p.run w t).2) :=
  Keeps.run_viewed view sound h ht serves shows fun e t ht => by
    rw [publish]
    exact ⟨ht, rfl⟩

end Pass

end WorkloadOperator
