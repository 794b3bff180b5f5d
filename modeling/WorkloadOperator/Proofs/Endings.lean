import WorkloadOperator.Naming

/-!
# Names are told apart from behind

A child is named like its Instance, with an ending that says what the child is for.  The
name of an Instance is any text.  It may hold all that endings are made of, and it may be
the name of a child of another Instance, so from the front it cannot be seen where it
stops.

From behind it can, because no ending ends with another one (`Role.suffixFree_ending`).
So a name tells for what and for whom it was made (`Role.nameFor_eq_iff`), and names of
children never collide (`Naming.children_apart`).
-/

namespace WorkloadOperator

/-! ## Endings -/

/-- A family of endings none of which ends with another one. -/
def SuffixFree {α : Type} (ending : α → String) : Prop :=
  ∀ x y, (ending x).toList <:+ (ending y).toList → x = y

/-- A text with an ending of the family has no other ending of it, and so what stands
before the ending is determined as well. -/
theorem SuffixFree.append_eq_append_iff {α : Type} {ending : α → String}
    (h : SuffixFree ending) {p p' : String} {x y : α} :
    p ++ ending x = p' ++ ending y ↔ p = p' ∧ x = y := by
  constructor
  · intro he
    have hlist : p.toList ++ (ending x).toList = p'.toList ++ (ending y).toList := by
      rw [← String.toList_append, he, String.toList_append]
    have hx : (ending x).toList <:+ p.toList ++ (ending x).toList := List.suffix_append _ _
    have hy : (ending y).toList <:+ p.toList ++ (ending x).toList := by
      rw [hlist]
      exact List.suffix_append _ _
    -- Two endings of one text are comparable, and comparable endings are the same.
    have hxy : x = y := by
      rcases List.suffix_or_suffix_of_suffix hx hy with hsuffix | hsuffix
      · exact h x y hsuffix
      · exact (h y x hsuffix).symm
    subst hxy
    exact ⟨String.toList_inj.1 (List.append_cancel_right hlist), rfl⟩
  · rintro ⟨rfl, rfl⟩
    rfl

/-! ## Roles -/

/-- What a child is for. -/
inductive Role where
  | workload (channel : Channel)
  | sessionStore (channel : Channel)
  | memoryStore
  deriving DecidableEq, Repr

namespace Role

/-- All roles. -/
def all : List Role :=
  Channel.all.map workload ++ Channel.all.map sessionStore ++ [memoryStore]

theorem mem_all (r : Role) : r ∈ all := by
  cases r with
  | workload channel => cases channel <;> decide
  | sessionStore channel => cases channel <;> decide
  | memoryStore => decide

/-- The name of the child of an Instance that has a role. -/
def nameFor (owner : String) : Role → String
  | workload channel => Naming.workload owner channel
  | sessionStore channel => Naming.sessionStore owner channel
  | memoryStore => Naming.memoryStore owner

/-- What stands behind the name of the Instance. -/
def ending (r : Role) : String := r.nameFor ""

theorem nameFor_eq (owner : String) (r : Role) : r.nameFor owner = owner ++ r.ending := by
  cases r <;>
    simp [nameFor, ending, Naming.workload, Naming.sessionStore, Naming.memoryStore,
      String.append_assoc]

theorem nameFor_ne_empty (owner : String) (r : Role) : r.nameFor owner ≠ "" := by
  cases r <;> simp [nameFor, Naming.workload, Naming.sessionStore, Naming.memoryStore]

theorem suffixFree_ending : SuffixFree ending := by
  have h : ∀ r ∈ all, ∀ r' ∈ all, r.ending.toList <:+ r'.ending.toList → r = r' := by decide
  exact fun r r' => h r r.mem_all r' r'.mem_all

/-- A name tells for whom it was made, and in which role. -/
theorem nameFor_eq_iff (owner owner' : String) (r r' : Role) :
    r.nameFor owner = r'.nameFor owner' ↔ owner = owner' ∧ r = r' := by
  rw [nameFor_eq, nameFor_eq]
  exact suffixFree_ending.append_eq_append_iff

/-- An Instance that has the name of a child of another one still has children of its own. -/
example : (workload .slack).nameFor "bot" = "bot-channel-slack" ∧
    (sessionStore .slack).nameFor "bot-channel-slack" ≠ (sessionStore .slack).nameFor "bot" := by
  decide

/-- Children in different roles have different names, whoever they are for. -/
theorem nameFor_ne (owner owner' : String) (r r' : Role) (h : r ≠ r') :
    r.nameFor owner ≠ r'.nameFor owner' :=
  fun hname => h ((nameFor_eq_iff owner owner' r r').1 hname).2

end Role

namespace Naming

variable {n n' : String} {c c' : Channel}

theorem workload_eq_iff : workload n c = workload n' c' ↔ n = n' ∧ c = c' := by
  simpa [Role.nameFor] using Role.nameFor_eq_iff n n' (.workload c) (.workload c')

theorem sessionStore_eq_iff : sessionStore n c = sessionStore n' c' ↔ n = n' ∧ c = c' := by
  simpa [Role.nameFor] using Role.nameFor_eq_iff n n' (.sessionStore c) (.sessionStore c')

theorem memoryStore_eq_iff : memoryStore n = memoryStore n' ↔ n = n' := by
  simpa [Role.nameFor] using Role.nameFor_eq_iff n n' .memoryStore .memoryStore

/-- Names of children never collide: whatever the Instances are named like, a name is that
of one Instance, of one kind of children and of one channel. -/
theorem children_apart (n n' : String) (c c' : Channel) :
    (workload n c = workload n' c' ↔ n = n' ∧ c = c') ∧
      (sessionStore n c = sessionStore n' c' ↔ n = n' ∧ c = c') ∧
      (memoryStore n = memoryStore n' ↔ n = n') ∧
      sessionStore n c ≠ workload n' c' ∧
      sessionStore n c ≠ memoryStore n' ∧
      workload n c ≠ memoryStore n' := by
  refine ⟨workload_eq_iff, sessionStore_eq_iff, memoryStore_eq_iff, ?_, ?_, ?_⟩
  · exact Role.nameFor_ne n n' (.sessionStore c) (.workload c') nofun
  · exact Role.nameFor_ne n n' (.sessionStore c) .memoryStore nofun
  · exact Role.nameFor_ne n n' (.workload c) .memoryStore nofun

end Naming

end WorkloadOperator
