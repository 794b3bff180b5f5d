import WorkloadOperator.Proofs.Cancellation
import WorkloadOperator.Proofs.Recording

/-!
# Amending a status

The difference of two statuses is a patch of the members in which they differ.  `diff_amends`
follows it all the way: there is none if nothing differs, and otherwise the store that is asked
to merge it into the one status has the other one afterwards.  Between them stand four codecs:
the status is encoded, compared member by member, merged as JSON and read back.

A member that is null would be dropped by the merge, and not written.  `Json.NullFree` says that
there is none, however deep.
-/

namespace WorkloadOperator

namespace Json

mutual

/-- There is no null, neither as the value nor inside it. -/
def NullFree : Json → Prop
  | .null => False
  | .arr items => NullFreeItems items
  | .obj members => NullFreeMembers members
  | .bool _ | .int _ | .double _ | .str _ => True

/-- There is no null in any value of a sequence. -/
def NullFreeItems : List Json → Prop
  | [] => True
  | x :: xs => NullFree x ∧ NullFreeItems xs

/-- There is no null in the value of any member. -/
def NullFreeMembers : List (String × Json) → Prop
  | [] => True
  | (_, x) :: xs => NullFree x ∧ NullFreeMembers xs

end

theorem nullFreeItems_map {α : Type} {encode : α → Json} (h : ∀ a, (encode a).NullFree)
    (as : List α) : NullFreeItems (as.map encode) := by
  induction as with
  | nil => trivial
  | cons a as ih => exact ⟨h a, ih⟩

theorem nullFreeMembers_of_forall {members : List (String × Json)}
    (h : ∀ m ∈ members, m.2.NullFree) : NullFreeMembers members := by
  induction members with
  | nil => trivial
  | cons m members ih =>
    exact ⟨h m List.mem_cons_self, ih fun m' hm' => h m' (List.mem_cons_of_mem _ hm')⟩

end Json

/-- What is read back as it was written was written in one way only. -/
theorem Decode.injective_of_decode {α : Type} {decode : Json → Result α} {encode : α → Json}
    (h : ∀ a, decode (encode a) = .ok a) : Function.Injective encode := by
  intro a b hab
  have hb := h a
  rw [hab, h b] at hb
  exact (Except.ok.inj hb).symm

theorem Channel.Report.nullFree_encode (r : Channel.Report) : r.encode.NullFree :=
  ⟨trivial, trivial, trivial⟩

namespace Instance.Status

/-- The members in which a status differs from the one before it, or from none. -/
inductive Changed (before : Option Status) (after : Status) : String → Json → Prop where
  | activeRuns (h : before.map Status.activeRuns ≠ some after.activeRuns) :
      Changed before after "activeRuns" (.int after.activeRuns.toInt)
  | channels (h : before.map Status.channels ≠ some after.channels) :
      Changed before after "channels" (.arr (after.channels.map Channel.Report.encode))
  | phase (h : before.map Status.phase ≠ some after.phase) :
      Changed before after "phase" after.phase.encode

/-- A patch takes a status, or none, to another one. -/
structure Amends (before : Option Status) (after : Status) (patch : Json) : Prop where
  /-- It is an object of the members in which they differ. -/
  members : ∃ changed, patch = .obj changed ∧ Entries.Ascending changed ∧
    ∀ name value, (name, value) ∈ changed ↔ Changed before after name value
  nullFree : patch.NullFree
  /-- An Instance that has the one status has the other one after the patch, and all else of it
  stays but its version. -/
  applied : ∀ (s : Store) (key : Key) (i : Instance) (version : Option String),
    s.find? .inst key = some i → i.status = before → ¬ s.Faulty .patch .inst →
    version = none ∨ version = i.metadata.resourceVersion →
      (s.serve (.patchStatus key version patch)).1 = .ok () ∧
      (s.serve (.patchStatus key version patch)).2.find? .inst key = some { i with
        status := some after
        metadata := { i.metadata with resourceVersion := some s.bump.versionText } }

variable {before : Option Status} {after : Status}

theorem nullFree_of_members (s : Status) : ∀ m ∈ s.members, m.2.NullFree := by
  intro m hm
  simp only [members, List.mem_cons, List.not_mem_nil, or_false] at hm
  rcases hm with rfl | rfl | rfl
  · trivial
  · exact Json.nullFreeItems_map Channel.Report.nullFree_encode _
  · trivial

/-- A member differs as JSON exactly if what it stands for differs. -/
theorem get?_ne_iff {α : Type} (name : String) (field : Status → α) (encode : α → Json)
    (hget : ∀ s : Status, Entries.get? name s.members = some (encode (field s)))
    (hencode : Function.Injective encode) (before : Option Status) (after : Status) :
    Entries.get? name ((before.map members).getD []) ≠ some (encode (field after)) ↔
      before.map field ≠ some (field after) := by
  cases before with
  | none => exact iff_of_true nofun nofun
  | some old =>
    rw [Option.map_some, Option.getD_some, hget, Option.map_some, ne_eq, ne_eq,
      Option.some_inj, Option.some_inj, hencode.eq_iff]

theorem mem_filter_members_iff {name : String} {value : Json} :
    ((name, value) ∈ after.members.filter fun m =>
      Entries.get? m.1 ((before.map members).getD []) ≠ some m.2) ↔
      Changed before after name value := by
  have hruns := get?_ne_iff "activeRuns" activeRuns (fun n => .int n.toInt) (fun _ => rfl)
    (Decode.injective_of_decode Decode.int64_toInt) before after
  have hchannels := get?_ne_iff "channels" channels
    (fun rs => .arr (rs.map Channel.Report.encode)) (fun _ => rfl)
    (Decode.injective_of_decode (Decode.list_map Channel.Report.decode_encode)) before after
  have hphase := get?_ne_iff "phase" phase Phase.encode (fun _ => rfl)
    (Decode.injective_of_decode Phase.decode_encode) before after
  rw [List.mem_filter, decide_eq_true_iff]
  constructor
  · rintro ⟨hmem, hne⟩
    simp only [members, List.mem_cons, List.not_mem_nil, or_false] at hmem
    rcases hmem with h | h | h <;> cases h
    · exact .activeRuns (hruns.1 hne)
    · exact .channels (hchannels.1 hne)
    · exact .phase (hphase.1 hne)
  · intro hchanged
    cases hchanged with
    | activeRuns h => exact ⟨by simp [members], hruns.2 h⟩
    | channels h => exact ⟨by simp [members], hchannels.2 h⟩
    | phase h => exact ⟨by simp [members], hphase.2 h⟩

/-- The store applies a patch that was made for the status that it has. -/
theorem serve_diff {patch : Json} (h : diff before after = some patch) {s : Store} {key : Key}
    {i : Instance} {version : Option String} (hi : s.find? .inst key = some i)
    (hstatus : i.status = before) (hfault : ¬ s.Faulty .patch .inst)
    (hversion : version = none ∨ version = i.metadata.resourceVersion) :
    (s.serve (.patchStatus key version patch)).1 = .ok () ∧
      (s.serve (.patchStatus key version patch)).2.find? .inst key = some { i with
        status := some after
        metadata := { i.metadata with resourceVersion := some s.bump.versionText } } := by
  have hmeant : Store.meantFor version i = true := by
    rcases hversion with rfl | rfl
    · rfl
    · exact Store.meantFor_self i
  have hdecode : decode (((i.status.map encode).getD .null).merge patch) = .ok after := by
    rw [hstatus]
    exact decode_merge_diff h
  have hserve : s.serve (.patchStatus key version patch) =
      (.ok (), (s.bump.put .inst key { i with
        status := some after
        metadata := { i.metadata with
          resourceVersion := some s.bump.versionText } }).record .patch .inst key.name) := by
    rw [Store.serve_of_not_faulty hfault]
    simp only [Store.answer, hi, if_pos hmeant, hdecode]
  rw [hserve]
  exact ⟨rfl, (Store.find?_record ..).trans (Store.find?_put_self _)⟩

theorem amends_of_diff {patch : Json} (h : diff before after = some patch) :
    Amends before after patch := by
  obtain ⟨changed, rfl, hchanged⟩ : ∃ changed, patch = .obj changed ∧
      changed = after.members.filter fun m =>
        Entries.get? m.1 ((before.map members).getD []) ≠ some m.2 := by
    simp only [diff] at h
    split at h
    · cases h
    · exact ⟨_, (Option.some.inj h).symm, rfl⟩
  refine ⟨⟨changed, rfl, ?_, ?_⟩, ?_, fun s key i version => serve_diff h⟩
  · rw [hchanged]
    exact (ascending_members after).filter _
  · intro name value
    rw [hchanged]
    exact mem_filter_members_iff
  · refine Json.nullFreeMembers_of_forall fun m hm => ?_
    rw [hchanged] at hm
    exact nullFree_of_members after m (List.mem_filter.1 hm).1

/-- The difference of a status and another one is a patch that takes the one to the other, and
there is none exactly if they are equal. -/
theorem diff_amends (before : Option Status) (after : Status) :
    (diff before after = none ↔ before = some after) ∧
      (before ≠ some after → ∃ patch, diff before after = some patch ∧
        Amends before after patch) := by
  refine ⟨⟨eq_of_diff_eq_none, fun h => h ▸ diff_self after⟩, fun hne => ?_⟩
  cases hdiff : diff before after with
  | none => exact absurd (eq_of_diff_eq_none hdiff) hne
  | some patch => exact ⟨patch, rfl, amends_of_diff hdiff⟩

/-- A status with an error. -/
def ailing : Status where
  phase := .error
  channels := [⟨.telegram, .connected⟩]
  activeRuns := 2

theorem diff_amends_ailing :
    let key : Key := ⟨"tenant", "bot"⟩
    let s := Store.empty.run [.insertInstance {
      metadata := { name := some "bot", ns := some "tenant" }
      status := some ailing }]
    let after := { ailing with phase := .running, activeRuns := -1 }
    let patch := Json.obj [("activeRuns", .int (-1)), ("phase", .str "Running")]
    some ailing ≠ some after ∧ diff (some ailing) after = some patch ∧
      Amends (some ailing) after patch ∧
      ∃ i, s.find? .inst key = some i ∧ i.status = some ailing ∧ ¬ s.Faulty .patch .inst ∧
        (s.serve (.patchStatus key none patch)).1 = .ok () ∧
        (s.serve (.patchStatus key none patch)).2.find? .inst key = some { i with
          status := some after
          metadata := { i.metadata with resourceVersion := some s.bump.versionText } } := by
  intro key s after patch
  have differ : some ailing ≠ some after := by decide
  have made : diff (some ailing) after = some patch := by decide +kernel
  have status : ∀ i ∈ s.find? .inst key, i.status = some ailing := by decide +kernel
  have calm : ¬ s.Faulty .patch .inst := by decide +kernel
  obtain ⟨i, hi⟩ := Option.isSome_iff_exists.1
    (show (s.find? .inst key).isSome = true by decide +kernel)
  obtain ⟨patch', hpatch', amends⟩ := (diff_amends (some ailing) after).2 differ
  obtain rfl : patch = patch' := Option.some.inj (made.symm.trans hpatch')
  exact ⟨differ, made, amends, i, hi, status i hi, calm,
    amends.applied s key i none hi (status i hi) calm (.inl rfl)⟩

end Instance.Status

end WorkloadOperator
