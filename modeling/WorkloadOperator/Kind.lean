import WorkloadOperator.ConfigMap
import WorkloadOperator.Deployment
import WorkloadOperator.Instance
import WorkloadOperator.Run
import WorkloadOperator.VolumeClaim

/-!
# Kinds and keys

The five kinds of objects that are stored, and the keys under which they are
filed.  `Kind.Object` gives the type of the objects of a kind.  The operator
creates and deletes objects of three kinds, the children of an Instance.

Keys are ordered by namespace and then by name.
-/

namespace WorkloadOperator

/-- A kind of stored objects. -/
inductive Kind where
  | inst
  | deployment
  | volumeClaim
  | configMap
  | run
  deriving DecidableEq, Repr

namespace Kind

/-- The name of a kind. -/
def name : Kind → String
  | .inst => "Instance"
  | .deployment => "Deployment"
  | .volumeClaim => "PersistentVolumeClaim"
  | .configMap => "ConfigMap"
  | .run => "Run"

/-- All kinds. -/
def all : List Kind := [.inst, .deployment, .volumeClaim, .configMap, .run]

/-- The objects of a kind. -/
abbrev Object : Kind → Type
  | .inst => Instance
  | .deployment => Deployment
  | .volumeClaim => VolumeClaim
  | .configMap => ConfigMap
  | .run => Run

instance : (κ : Kind) → Resource κ.Object
  | .inst => inferInstanceAs (Resource Instance)
  | .deployment => inferInstanceAs (Resource Deployment)
  | .volumeClaim => inferInstanceAs (Resource VolumeClaim)
  | .configMap => inferInstanceAs (Resource ConfigMap)
  | .run => inferInstanceAs (Resource Run)

instance : (κ : Kind) → DecidableEq κ.Object
  | .inst => inferInstanceAs (DecidableEq Instance)
  | .deployment => inferInstanceAs (DecidableEq Deployment)
  | .volumeClaim => inferInstanceAs (DecidableEq VolumeClaim)
  | .configMap => inferInstanceAs (DecidableEq ConfigMap)
  | .run => inferInstanceAs (DecidableEq Run)

/-- An object of a kind as JSON. -/
def encode : (κ : Kind) → κ.Object → Json
  | .inst => Instance.encode
  | .deployment => Deployment.encode
  | .volumeClaim => VolumeClaim.encode
  | .configMap => ConfigMap.encode
  | .run => Run.encode

/-- Read an object of a kind. -/
def decode : (κ : Kind) → Json → Decode.Result κ.Object
  | .inst => Instance.decode
  | .deployment => Deployment.decode
  | .volumeClaim => VolumeClaim.decode
  | .configMap => ConfigMap.decode
  | .run => Run.decode

/-- The outline of an object of a kind. -/
def outline : Kind → Outline
  | .inst => Instance.outline
  | .deployment => Deployment.outline
  | .volumeClaim => VolumeClaim.outline
  | .configMap => ConfigMap.outline
  | .run => Run.outline

/-- The name of an object: its own, else what a generated one starts with. -/
def nameOf (κ : Kind) (o : κ.Object) : String := (Resource.metadata o).displayName

end Kind

/-- A kind of which an Instance has children. -/
inductive Child where
  | deployment
  | volumeClaim
  | configMap
  deriving DecidableEq, Repr

namespace Child

/-- A kind of children as a kind of objects. -/
abbrev kind : Child → Kind
  | .deployment => .deployment
  | .volumeClaim => .volumeClaim
  | .configMap => .configMap

/-- The objects of a kind of children. -/
abbrev Object (c : Child) : Type := c.kind.Object

end Child

/-- Where an object is filed. -/
structure Key where
  ns : String
  name : String
  deriving DecidableEq, Repr

namespace Key

@[ext] theorem ext {a b : Key} (hns : a.ns = b.ns) (hname : a.name = b.name) : a = b := by
  cases a
  cases b
  cases hns
  cases hname
  rfl

instance : LT Key := ⟨fun a b => a.ns < b.ns ∨ (a.ns = b.ns ∧ a.name < b.name)⟩

instance : DecidableLT Key := fun a b =>
  inferInstanceAs (Decidable (a.ns < b.ns ∨ (a.ns = b.ns ∧ a.name < b.name)))

theorem lt_iff {a b : Key} : a < b ↔ a.ns < b.ns ∨ (a.ns = b.ns ∧ a.name < b.name) := Iff.rfl

instance : Std.Irrefl (α := Key) (· < ·) where
  irrefl a h := by
    rcases lt_iff.1 h with h | ⟨_, h⟩
    · exact String.lt_irrefl _ h
    · exact String.lt_irrefl _ h

instance : Trans (α := Key) (· < ·) (· < ·) (· < ·) where
  trans {a b c} h h' := by
    rcases lt_iff.1 h with h | ⟨e, h⟩ <;> rcases lt_iff.1 h' with h' | ⟨e', h'⟩
    · exact .inl (String.lt_trans h h')
    · exact .inl (e' ▸ h)
    · exact .inl (e ▸ h')
    · exact .inr ⟨e.trans e', String.lt_trans h h'⟩

instance : Std.Asymm (α := Key) (· < ·) where
  asymm a _ h h' := Std.Irrefl.irrefl (r := (· < ·)) a (Trans.trans h h')

instance : Std.Trichotomous (α := Key) (· < ·) where
  trichotomous a b h h' := by
    have hns : a.ns = b.ns := Std.Trichotomous.trichotomous (r := (· < ·)) a.ns b.ns
      (fun e => h (.inl e)) (fun e => h' (.inl e))
    have hname : a.name = b.name := Std.Trichotomous.trichotomous (r := (· < ·)) a.name b.name
      (fun e => h (.inr ⟨hns, e⟩)) (fun e => h' (.inr ⟨hns.symm, e⟩))
    exact Key.ext hns hname

end Key

end WorkloadOperator
