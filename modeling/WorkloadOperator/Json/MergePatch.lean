import WorkloadOperator.Json.Basic

/-!
# Merge patches

A merge patch that is an object describes changes member by member: null drops
the member, and any other value is itself merged into the member that is there.
A patch that is no object replaces the whole value.  So the items of a sequence
cannot be addressed: a sequence is always replaced.

A patch of the members that changed, and no others, takes an object to the other one
(`mergeMembers_changed`), if it drops no member and changes none in part.
-/

namespace WorkloadOperator

namespace Json

mutual

/-- Apply a merge patch to a value. -/
def merge (target : Json) : (patch : Json) → Json
  | .obj patch => .obj (mergeMembers target.members patch)
  | .null => .null
  | .bool b => .bool b
  | .int i => .int i
  | .double d => .double d
  | .str s => .str s
  | .arr items => .arr items
termination_by structural patch => patch

/-- Apply the members of a merge patch one by one. -/
def mergeMembers (target : List (String × Json)) :
    (patch : List (String × Json)) → List (String × Json)
  | [] => target
  | (key, .null) :: rest => mergeMembers (Entries.erase key target) rest
  | (key, value) :: rest =>
    mergeMembers (Entries.insert key (merge ((Entries.get? key target).getD .null) value) target)
      rest
termination_by structural patch => patch

end

variable {target patch before after : List (String × Json)}

/-- As a patch, the value replaces whatever is there. -/
def Replaces (value : Json) : Prop := value ≠ .null ∧ ∀ target, merge target value = value

theorem ascending_mergeMembers (h : Entries.Ascending target) :
    Entries.Ascending (mergeMembers target patch) := by
  induction patch generalizing target with
  | nil => exact h
  | cons m rest ih =>
    obtain ⟨key, value⟩ := m
    cases value with
    | null => exact ih (h.erase key)
    | bool | int | double | str | arr | obj => exact ih (h.insert key _)

theorem mergeMembers_cons {key : String} {value : Json} (h : value ≠ .null) :
    mergeMembers target ((key, value) :: patch) = mergeMembers
      (Entries.insert key (merge ((Entries.get? key target).getD .null) value) target) patch := by
  cases value with
  | null => exact absurd rfl h
  | bool | int | double | str | arr | obj => rfl

/-- What a merge patch makes of a member, by what it says there. -/
def revised? (present : Option Json) : Option Json → Option Json
  | none => present
  | some .null => none
  | some value => some (merge (present.getD .null) value)

theorem revised?_some {present : Option Json} {value : Json} (h : value ≠ .null) :
    revised? present (some value) = some (merge (present.getD .null) value) := by
  cases value with
  | null => exact absurd rfl h
  | bool | int | double | str | arr | obj => rfl

/-- What is read after a merge patch was read before, unless the patch says something there. -/
theorem get?_mergeMembers (hpatch : Entries.Ascending patch) (key : String) :
    Entries.get? key (mergeMembers target patch) =
      revised? (Entries.get? key target) (Entries.get? key patch) := by
  induction patch generalizing target with
  | nil => rfl
  | cons m rest ih =>
    obtain ⟨k, value⟩ := m
    obtain ⟨hk, hrest⟩ := List.pairwise_cons.1 hpatch
    rw [Entries.get?_cons]
    by_cases hkey : k = key
    · subst hkey
      have habsent : Entries.get? k rest = none := by
        refine Option.eq_none_iff_forall_ne_some.2 fun v hv => ?_
        exact String.lt_irrefl k (hk _ (Entries.mem_of_get? hv))
      by_cases hnull : value = .null
      · subst hnull
        rw [if_pos rfl, mergeMembers, ih hrest, habsent, revised?, Entries.get?_erase, if_pos rfl]
        rfl
      · rw [if_pos rfl, mergeMembers_cons hnull, ih hrest, habsent, revised?, Entries.get?_insert,
          if_pos rfl, revised?_some hnull]
    · rw [if_neg hkey]
      by_cases hnull : value = .null
      · subst hnull
        rw [mergeMembers, ih hrest, Entries.get?_erase, if_neg hkey]
      · rw [mergeMembers_cons hnull, ih hrest, Entries.get?_insert, if_neg hkey]

/-- The members that changed, put in the place of the old ones, give the new members. -/
theorem mergeMembers_changed (hbefore : Entries.Ascending before) (hafter : Entries.Ascending after)
    (h : ∀ m ∈ after, m.2.Replaces)
    (hkeys : before.map Prod.fst ⊆ after.map Prod.fst) :
    mergeMembers before (after.filter fun m => Entries.get? m.1 before ≠ some m.2) = after := by
  refine Entries.eq_of_get?_eq (ascending_mergeMembers hbefore) hafter fun key => ?_
  have hchanged : Entries.get? key (after.filter fun m => Entries.get? m.1 before ≠ some m.2) =
      (Entries.get? key after).filter fun v => Entries.get? key before ≠ some v := by
    have := Entries.get?_filter_map (fun m => Entries.get? m.1 before ≠ some m.2) id key hafter
    simpa using this
  rw [get?_mergeMembers (hafter.filter _), hchanged]
  cases hget : Entries.get? key after with
  | none =>
    exact Entries.get?_eq_none_iff.2 fun hkey => Entries.get?_eq_none_iff.1 hget (hkeys hkey)
  | some v =>
    obtain ⟨hnull, hmerge⟩ := h _ (Entries.mem_of_get? hget)
    by_cases hsame : Entries.get? key before = some v
    · simp [Option.filter_some, hsame, revised?]
    · simp [Option.filter_some, hsame, revised?_some hnull, hmerge]

end Json

end WorkloadOperator
