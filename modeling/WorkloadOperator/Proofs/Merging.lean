import WorkloadOperator.Json.MergePatch

/-!
# Laws of merge patches

What is read of a value after a merge patch is told member by member: it depends on what was read
there before and on what the patch says there, and on nothing else (`get?_merge`).  All laws follow
from that, for patches of any depth.  A patch that is applied twice does what it does once.  A patch
leaves alone what it does not name, and it never leaves a null behind that was not there
(`Filled.merge`).  Patches that name different members may change places.

A value is determined by what is read of it as long as its keys ascend, which a patch keeps
(`Canonical.merge`).
-/

namespace WorkloadOperator

namespace Json

/-! ## Values of objects -/

mutual

/-- No member of an object is null, in the value and inside it.  What stands in a sequence does not
count. -/
def Filled : Json → Prop
  | .obj members => FilledMembers members
  | .null | .bool _ | .int _ | .double _ | .str _ | .arr _ => True

/-- No member is null, nor is there a null inside its value. -/
def FilledMembers : List (String × Json) → Prop
  | [] => True
  | (_, x) :: xs => x ≠ .null ∧ Filled x ∧ FilledMembers xs

end

theorem canonicalMembers_iff {members : List (String × Json)} :
    CanonicalMembers members ↔ ∀ m ∈ members, m.2.Canonical := by
  induction members with
  | nil => simp [CanonicalMembers]
  | cons m members ih => simp [CanonicalMembers, ih]

theorem filledMembers_iff {members : List (String × Json)} :
    FilledMembers members ↔ ∀ m ∈ members, m.2 ≠ .null ∧ m.2.Filled := by
  induction members with
  | nil => simp [FilledMembers]
  | cons m members ih => simp [FilledMembers, ih, and_assoc]

/-- The members of a canonical value ascend, and they are canonical. -/
theorem Canonical.members {j : Json} (h : j.Canonical) :
    Entries.Ascending j.members ∧ ∀ m ∈ j.members, m.2.Canonical := by
  cases j with
  | obj members => exact ⟨h.1, canonicalMembers_iff.1 h.2⟩
  | null | bool | int | double | str | arr => exact ⟨.nil, by simp [Json.members]⟩

theorem Filled.members {j : Json} (h : j.Filled) : ∀ m ∈ j.members, m.2 ≠ .null ∧ m.2.Filled := by
  cases j with
  | obj members => exact filledMembers_iff.1 h
  | null | bool | int | double | str | arr => simp [Json.members]

/-- What is read of a canonical value is canonical. -/
theorem Canonical.get? {j value : Json} {key : String} (h : j.Canonical)
    (hget : j.get? key = some value) : value.Canonical :=
  h.members.2 _ (Entries.mem_of_get? hget)

/-- A member that is there or is put there before it is merged is canonical. -/
theorem Canonical.getD {j : Json} (h : j.Canonical) (key : String) :
    ((j.get? key).getD .null).Canonical := by
  cases hget : j.get? key with
  | none => trivial
  | some value => exact h.get? hget

/-! ## Induction -/

mutual

/-- A patch is a value that replaces everything, or it has members that are patches. -/
@[elab_as_elim]
theorem patchInduction {motive : Json → Prop} (whole : ∀ j, (∀ members, j ≠ .obj members) → motive j)
    (obj : ∀ members, (∀ m ∈ members, motive m.2) → motive (.obj members)) : ∀ j, motive j
  | .obj members => obj members (patchInduction_members whole obj members)
  | .null => whole _ nofun
  | .bool _ => whole _ nofun
  | .int _ => whole _ nofun
  | .double _ => whole _ nofun
  | .str _ => whole _ nofun
  | .arr _ => whole _ nofun

theorem patchInduction_members {motive : Json → Prop}
    (whole : ∀ j, (∀ members, j ≠ .obj members) → motive j)
    (obj : ∀ members, (∀ m ∈ members, motive m.2) → motive (.obj members)) :
    ∀ members : List (String × Json), ∀ m ∈ members, motive m.2
  | [] => nofun
  | (_, value) :: members => by
    intro m hm
    rcases List.mem_cons.1 hm with rfl | hm
    · exact patchInduction whole obj value
    · exact patchInduction_members whole obj members m hm

end

/-! ## What is read after a patch -/

variable {target patch : Json} {members : List (String × Json)} {key : String}

theorem merge_whole (h : ∀ members, patch ≠ .obj members) (target : Json) :
    merge target patch = patch := by
  cases patch with
  | obj members => exact absurd rfl (h members)
  | null | bool | int | double | str | arr => rfl

theorem get?_merge (hpatch : Entries.Ascending members) (target : Json) (key : String) :
    (merge target (.obj members)).get? key = revised? (target.get? key) ((obj members).get? key) :=
  get?_mergeMembers hpatch key

/-- What is read after a patch was there before, or it was merged. -/
theorem eq_of_revised?_eq_some {present change : Option Json} {value : Json}
    (h : revised? present change = some value) :
    (change = none ∧ present = some value) ∨
      ∃ v, v ≠ .null ∧ change = some v ∧ value = merge (present.getD .null) v := by
  cases change with
  | none => exact .inl ⟨rfl, h⟩
  | some v =>
    by_cases hnull : v = .null
    · subst hnull
      cases h
    · rw [revised?_some hnull] at h
      exact .inr ⟨v, hnull, rfl, (Option.some.inj h).symm⟩

/-- The keys ascend after a patch, as deep as they did before. -/
theorem Canonical.merge (ht : target.Canonical) (hp : patch.Canonical) :
    (target.merge patch).Canonical := by
  induction patch using patchInduction generalizing target with
  | whole patch h =>
    rw [merge_whole h]
    exact hp
  | obj members ih =>
    have ascending : Entries.Ascending (mergeMembers target.members members) :=
      ascending_mergeMembers ht.members.1
    refine ⟨ascending, canonicalMembers_iff.2 fun m hm => ?_⟩
    have hget : (Json.merge target (.obj members)).get? m.1 = some m.2 :=
      (Entries.mem_iff_get? ascending).1 hm
    rw [get?_merge hp.1] at hget
    rcases eq_of_revised?_eq_some hget with ⟨-, hold⟩ | ⟨v, -, hv, hmerged⟩
    · exact ht.get? hold
    · rw [hmerged]
      exact ih _ (Entries.mem_of_get? hv) (ht.getD m.1) (hp.get? hv)

theorem ascending_merge (h : Entries.Ascending target.members)
    (members : List (String × Json)) :
    Entries.Ascending (target.merge (.obj members)).members :=
  ascending_mergeMembers h

/-- Two values that were patched member by member are one if the same is read of both. -/
theorem merge_obj_eq {target' : Json} {members' : List (String × Json)}
    (h : Entries.Ascending target.members) (h' : Entries.Ascending target'.members)
    (hget : ∀ key, (target.merge (.obj members)).get? key =
      (target'.merge (.obj members')).get? key) :
    target.merge (.obj members) = target'.merge (.obj members') :=
  congrArg obj (Entries.eq_of_get?_eq (ascending_merge h _) (ascending_merge h' _) hget)

/-! ## The laws -/

/-- A patch that is applied twice does what it does once. -/
theorem merge_merge (ht : target.Canonical) (hp : patch.Canonical) :
    (target.merge patch).merge patch = target.merge patch := by
  induction patch using patchInduction generalizing target with
  | whole patch h => rw [merge_whole h, merge_whole h]
  | obj members ih =>
    have once : Entries.Ascending (target.merge (.obj members)).members :=
      ascending_merge ht.members.1 members
    refine merge_obj_eq once ht.members.1 fun key => ?_
    rw [get?_merge hp.1, get?_merge hp.1]
    cases hv : (obj members).get? key with
    | none => rfl
    | some v =>
      by_cases hnull : v = .null
      · rw [hnull]
        rfl
      · rw [revised?_some hnull, revised?_some hnull, Option.getD_some]
        exact congrArg some (ih _ (Entries.mem_of_get? hv) (ht.getD key) (hp.get? hv))

/-- A patch leaves no null behind that was not there. -/
theorem Filled.merge (ht : target.Canonical) (hp : patch.Canonical) (h : target.Filled) :
    (target.merge patch).Filled := by
  induction patch using patchInduction generalizing target with
  | whole patch hwhole =>
    rw [merge_whole hwhole]
    cases patch with
    | obj members => exact absurd rfl (hwhole members)
    | null | bool | int | double | str | arr => trivial
  | obj members ih =>
    have ascending : Entries.Ascending (mergeMembers target.members members) :=
      ascending_mergeMembers ht.members.1
    refine filledMembers_iff.2 fun m hm => ?_
    have hget : (Json.merge target (.obj members)).get? m.1 = some m.2 :=
      (Entries.mem_iff_get? ascending).1 hm
    rw [get?_merge hp.1] at hget
    rcases eq_of_revised?_eq_some hget with ⟨-, hold⟩ | ⟨v, hnull, hv, hmerged⟩
    · exact h.members _ (Entries.mem_of_get? hold)
    · -- what was missing is merged into null, of which nothing is left
      have present : ((target.get? m.1).getD .null).Filled := by
        cases hold : target.get? m.1 with
        | none => trivial
        | some x => exact (h.members _ (Entries.mem_of_get? hold)).2
      rw [hmerged]
      refine ⟨?_, ih _ (Entries.mem_of_get? hv) (ht.getD m.1) (hp.get? hv) present⟩
      cases v with
      | null => exact absurd rfl hnull
      | bool | int | double | str | arr | obj => exact nofun

/-- Patches that name different members may change places. -/
theorem merge_right_comm {members members' : List (String × Json)} (ht : target.Canonical)
    (hp : Canonical (.obj members)) (hp' : Canonical (.obj members'))
    (hdisjoint : ∀ key, (obj members).get? key = none ∨ (obj members').get? key = none) :
    (target.merge (.obj members)).merge (.obj members') =
      (target.merge (.obj members')).merge (.obj members) := by
  have first := ascending_merge ht.members.1 members
  have second := ascending_merge ht.members.1 members'
  refine merge_obj_eq first second fun key => ?_
  rw [get?_merge hp'.1, get?_merge hp.1, get?_merge hp.1, get?_merge hp'.1]
  rcases hdisjoint key with hnone | hnone
  · rw [hnone]
    rfl
  · rw [hnone]
    rfl

/-- A merge patch that is no object replaces the value.  One that is an object gives an object, in
which each member that it names is dropped or merged, and each other member is as it was.  It has no
effect when it is applied again, it puts no null where there was none, and it may change places with
a patch that names other members. -/
theorem merge_lawful (ht : target.Canonical) (hp : patch.Canonical) :
    (target.merge patch).Canonical ∧
    (target.merge patch).merge patch = target.merge patch ∧
    ((∀ members, patch ≠ .obj members) → target.merge patch = patch) ∧
    ∀ members, patch = .obj members →
      (∃ after, target.merge patch = .obj after) ∧
      (∀ key, patch.get? key = none → (target.merge patch).get? key = target.get? key) ∧
      (∀ key, patch.get? key = some .null → (target.merge patch).get? key = none) ∧
      (∀ key value, patch.get? key = some value → value ≠ .null →
        (target.merge patch).get? key = some (((target.get? key).getD .null).merge value)) ∧
      (target.Filled → (target.merge patch).Filled) ∧
      ∀ members', Canonical (.obj members') →
        (∀ key, patch.get? key = none ∨ (obj members').get? key = none) →
        (target.merge patch).merge (.obj members') = (target.merge (.obj members')).merge patch := by
  refine ⟨ht.merge hp, merge_merge ht hp, fun hwhole => merge_whole hwhole target, ?_⟩
  rintro members rfl
  refine ⟨⟨_, rfl⟩, ?_, ?_, ?_, Filled.merge ht hp, fun members' => merge_right_comm ht hp⟩
  · intro key hnone
    rw [get?_merge hp.1, hnone]
    rfl
  · intro key hnull
    rw [get?_merge hp.1, hnull]
    rfl
  · intro key value hvalue hnull
    rw [get?_merge hp.1, hvalue, revised?_some hnull]

/-- A patch drops a member deep inside a value, drops another one at the top, and adds objects where
there was nothing. -/
theorem merge_lawful_deep :
    let target := obj [("a", obj [("b", int 1), ("c", arr [null])]), ("x", int 1)]
    let patch := obj [("a", obj [("b", null), ("d", obj [("e", null), ("f", str "new")])]),
      ("n", obj [("z", null)]), ("x", null)]
    let other := obj [("o", bool true), ("p", null)]
    let result := obj [("a", obj [("c", arr [null]), ("d", obj [("f", str "new")])]), ("n", obj [])]
    target.Canonical ∧ patch.Canonical ∧ other.Canonical ∧ target.Filled ∧
      target.merge patch = result ∧ result.merge patch = result ∧ result.Filled ∧
      result.merge other = (target.merge other).merge patch ∧
      result.get? "a" = some ((obj [("b", int 1), ("c", arr [null])]).merge
        (obj [("b", null), ("d", obj [("e", null), ("f", str "new")])])) := by
  intro target patch other result
  have canonical : target.Canonical ∧ patch.Canonical ∧ other.Canonical := by
    simp only [target, patch, other, Canonical, CanonicalMembers, CanonicalItems]
    decide
  have filled : target.Filled := by simp [target, Filled, FilledMembers]
  obtain ⟨htarget, hpatch, hother⟩ := canonical
  have merged : target.merge patch = result := by decide
  have apart : ∀ key, patch.get? key = none ∨ other.get? key = none := by
    intro key
    by_cases hkey : key = "o" ∨ key = "p"
    · rcases hkey with rfl | rfl
      · exact .inl (by decide)
      · exact .inl (by decide)
    · obtain ⟨ho, hp⟩ := not_or.1 hkey
      exact .inr (by simp [other, get?, members, Entries.get?_cons, eq_comm, ho, hp])
  obtain ⟨-, twice, -, laws⟩ := merge_lawful htarget hpatch
  obtain ⟨-, -, -, named, kept, change⟩ := laws _ rfl
  rw [merged] at twice named kept change
  exact ⟨htarget, hpatch, hother, filled, merged, twice, kept filled, change _ hother apart,
    named "a" _ rfl (by simp)⟩

end Json

end WorkloadOperator
