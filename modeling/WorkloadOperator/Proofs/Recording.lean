import WorkloadOperator.Json.MergePatch
import WorkloadOperator.Pass.Status

/-!
# The status is recorded as it was meant

A status is written as a merge patch of the members that changed.  Applied to the status
that was there, the patch gives the one that was meant (`merge_diff`), and that is read
back as it was written (`decode_encode`).  So a patch for the version that is there is
never refused as malformed.
-/

namespace WorkloadOperator

namespace Decode

theorem int64_toInt (n : Int64) : int64 (.int n.toInt) = .ok n := by
  have hrange : Int64.minValue.toInt ≤ n.toInt ∧ n.toInt ≤ Int64.maxValue.toInt :=
    ⟨n.minValue_le_toInt, n.toInt_le⟩
  rw [int64, integer, if_pos hrange]
  exact congrArg Except.ok n.ofInt_toInt

theorem list_map {α : Type} {decode : Json → Result α} {encode : α → Json}
    (h : ∀ a, decode (encode a) = .ok a) (as : List α) :
    list decode (.arr (as.map encode)) = .ok as := by
  rw [list]
  induction as with
  | nil => rfl
  | cons a as ih =>
    rw [List.map_cons, List.mapM_cons, h, ih]
    rfl

end Decode

theorem Channel.Report.decode_encode (r : Channel.Report) : decode r.encode = .ok r := by
  obtain ⟨channel, link⟩ := r
  cases channel <;> cases link <;> rfl

namespace Instance

theorem Phase.decode_encode (p : Phase) : decode p.encode = .ok p := by
  cases p <;> rfl

namespace Status

theorem decode_encode (s : Status) : decode s.encode = .ok s := by
  simp [decode, encode, members, Decode.Positional.decode, Decode.member?, Entries.get?_cons,
    Decode.int64_toInt, Decode.list_map Channel.Report.decode_encode, Phase.decode_encode,
    Except.map]
  rfl

theorem keys_members (s : Status) :
    s.members.map Prod.fst = ["activeRuns", "channels", "phase"] := rfl

theorem ascending_members (s : Status) : Entries.Ascending s.members := by
  refine List.pairwise_map.1 ?_
  rw [keys_members]
  decide

theorem replaces_of_members (s : Status) : ∀ m ∈ s.members, m.2.Replaces := by
  simp [members, Phase.encode, Json.Replaces, Json.merge]

theorem merge_diff {before : Option Status} {after : Status} {patch : Json}
    (h : diff before after = some patch) :
    ((before.map encode).getD .null).merge patch = after.encode := by
  have hpatch : patch = .obj (after.members.filter fun m =>
      Entries.get? m.1 ((before.map members).getD []) ≠ some m.2) := by
    simp only [diff] at h
    split at h
    · cases h
    · exact (Option.some.inj h).symm
  rw [hpatch]
  refine congrArg Json.obj ?_
  cases before with
  | none =>
    exact Json.mergeMembers_changed .nil (ascending_members after) (replaces_of_members after)
      (List.nil_subset _)
  | some before =>
    have hkeys : before.members.map Prod.fst ⊆ after.members.map Prod.fst := by
      intro key hkey
      rwa [keys_members] at hkey ⊢
    exact Json.mergeMembers_changed (ascending_members before) (ascending_members after)
      (replaces_of_members after) hkeys

/-- There is no patch for a status that is recorded already. -/
theorem eq_of_diff_eq_none {before : Option Status} {after : Status}
    (h : diff before after = none) : before = some after := by
  have hfilter : (after.members.filter fun m =>
      Entries.get? m.1 ((before.map members).getD []) ≠ some m.2) = [] := by
    simp only [diff] at h
    split at h
    · assumption
    · cases h
  have hall : ∀ m ∈ after.members,
      Entries.get? m.1 ((before.map members).getD []) = some m.2 := by
    intro m hm
    simpa using List.filter_eq_nil_iff.1 hfilter m hm
  cases before with
  | none => cases hall _ List.mem_cons_self
  | some before =>
    have hmembers : before.members = after.members := by
      simpa [members, Entries.get?_cons] using hall
    have hencode : before.encode = after.encode := congrArg Json.obj hmembers
    have hdecode := decode_encode before
    rw [hencode, decode_encode] at hdecode
    cases hdecode
    rfl

theorem diff_self (s : Status) : diff (some s) s = none := by
  have hfilter : (s.members.filter fun m => Entries.get? m.1 s.members ≠ some m.2) = [] := by
    refine List.filter_eq_nil_iff.2 fun m hm => ?_
    simpa using (Entries.mem_iff_get? (ascending_members s)).1 hm
  simp only [diff, Option.map_some, Option.getD_some, hfilter]

/-- A patch that was made for a status is applied to it as it was meant. -/
theorem decode_merge_diff {before : Option Status} {after : Status} {patch : Json}
    (h : diff before after = some patch) :
    decode (((before.map encode).getD .null).merge patch) = .ok after := by
  rw [merge_diff h, decode_encode]

end Status

end Instance

end WorkloadOperator
