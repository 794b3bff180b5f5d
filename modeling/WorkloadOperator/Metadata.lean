import WorkloadOperator.Moment

/-!
# Metadata of stored objects

Every stored object has a name, a namespace and the marks that the store and
its writers put on it.  All of them are optional, because an object that is to
be created has few of them.

`Resource` is the access to the metadata of an object of any kind.  Its laws say
that metadata is a part of the object that can be replaced by itself.
-/

namespace WorkloadOperator

/-- A set of labels, or another dictionary of texts. -/
abbrev Labels := Dict String String

/-- Which object another one belongs to. -/
structure OwnerReference where
  apiVersion : String
  kind : String
  name : String
  uid : String
  /-- Whether the owner manages the object. -/
  controller : Option Bool
  /-- Whether the owner stays until the object is gone. -/
  blockOwnerDeletion : Option Bool
  deriving DecidableEq

/-- The metadata of an object. -/
structure Metadata where
  name : Option String := none
  /-- What a generated name starts with. -/
  generateName : Option String := none
  /-- The namespace. -/
  ns : Option String := none
  labels : Option Labels := none
  annotations : Option Labels := none
  /-- What tells the object from another one of the same name. -/
  uid : Option String := none
  /-- What tells this version of the object from every other one. -/
  resourceVersion : Option String := none
  generation : Option Int64 := none
  creationTimestamp : Option Moment := none
  /-- When its deletion was requested. -/
  deletionTimestamp : Option Moment := none
  /-- Who still has to let go of the object before it may vanish. -/
  finalizers : Option (List String) := none
  ownerReferences : Option (List OwnerReference) := none
  deriving DecidableEq, Inhabited

namespace OwnerReference

/-- An owner reference as JSON. -/
def encode (o : OwnerReference) : Json :=
  .record [
    ("apiVersion", some (.str o.apiVersion)),
    ("blockOwnerDeletion", o.blockOwnerDeletion.map .bool),
    ("controller", o.controller.map .bool),
    ("kind", some (.str o.kind)),
    ("name", some (.str o.name)),
    ("uid", some (.str o.uid))]

/-- Read an owner reference, in which an absent text is empty. -/
def decode : Json → Decode.Result OwnerReference :=
  Decode.resource "OwnerReference" fun members => do
    let apiVersion ← Decode.nullable? "apiVersion" Decode.string members
    let blockOwnerDeletion ← Decode.nullable? "blockOwnerDeletion" Decode.boolean members
    let controller ← Decode.nullable? "controller" Decode.boolean members
    let kind ← Decode.nullable? "kind" Decode.string members
    let name ← Decode.nullable? "name" Decode.string members
    let uid ← Decode.nullable? "uid" Decode.string members
    .ok {
      apiVersion := apiVersion.getD ""
      kind := kind.getD ""
      name := name.getD ""
      uid := uid.getD ""
      controller
      blockOwnerDeletion }

/-- The outline of an owner reference. -/
def outline : Outline :=
  .resource "OwnerReference" [
    ("apiVersion", .text),
    ("blockOwnerDeletion", .boolean),
    ("controller", .boolean),
    ("kind", .text),
    ("name", .text),
    ("uid", .text)]

end OwnerReference

namespace Metadata

/-- The name of the object: its own, else what a generated one starts with. -/
def displayName (m : Metadata) : String := (m.name.or m.generateName).getD ""

/-- The finalizers, none if there is no list of them. -/
def finalizerList (m : Metadata) : List String := m.finalizers.getD []

/-- The value of a label. -/
def label? (m : Metadata) (key : String) : Option String := m.labels.bind (·.get? key)

/-- Metadata as JSON. -/
def encode (m : Metadata) : Json :=
  .record [
    ("annotations", m.annotations.map .ofDict),
    ("creationTimestamp", m.creationTimestamp.map Moment.encode),
    ("deletionTimestamp", m.deletionTimestamp.map Moment.encode),
    ("finalizers", m.finalizers.map .strs),
    ("generateName", m.generateName.map .str),
    ("generation", m.generation.map fun g => .int g.toInt),
    ("labels", m.labels.map .ofDict),
    ("name", m.name.map .str),
    ("namespace", m.ns.map .str),
    ("ownerReferences", m.ownerReferences.map fun os => .arr (os.map OwnerReference.encode)),
    ("resourceVersion", m.resourceVersion.map .str),
    ("uid", m.uid.map .str)]

/-- Read metadata. -/
def decode : Json → Decode.Result Metadata :=
  Decode.resource "ObjectMeta" fun members => do
    let annotations ← Decode.nullable? "annotations" Decode.dict members
    let creationTimestamp ← Decode.nullable? "creationTimestamp" Moment.decode members
    let deletionTimestamp ← Decode.nullable? "deletionTimestamp" Moment.decode members
    let finalizers ← Decode.nullable? "finalizers" (Decode.list Decode.string) members
    let generateName ← Decode.nullable? "generateName" Decode.string members
    let generation ← Decode.nullable? "generation" Decode.int64 members
    let labels ← Decode.nullable? "labels" Decode.dict members
    let name ← Decode.nullable? "name" Decode.string members
    let ns ← Decode.nullable? "namespace" Decode.string members
    let ownerReferences ←
      Decode.nullable? "ownerReferences" (Decode.list OwnerReference.decode) members
    let resourceVersion ← Decode.nullable? "resourceVersion" Decode.string members
    let uid ← Decode.nullable? "uid" Decode.string members
    .ok {
      name, generateName, ns, labels, annotations, uid, resourceVersion, generation,
      creationTimestamp, deletionTimestamp, finalizers, ownerReferences }

/-- The outline of metadata. -/
def outline : Outline :=
  .resource "ObjectMeta" [
    ("annotations", .dict),
    ("creationTimestamp", Moment.outline),
    ("deletionTimestamp", Moment.outline),
    ("finalizers", .list .text),
    ("generateName", .text),
    ("generation", .int64),
    ("labels", .dict),
    ("name", .text),
    ("namespace", .text),
    ("ownerReferences", .list OwnerReference.outline),
    ("resourceVersion", .text),
    ("uid", .text)]

end Metadata

/-- An object with metadata. -/
class Resource (α : Type) where
  /-- The metadata of the object. -/
  metadata : α → Metadata
  /-- The object with other metadata. -/
  withMetadata : α → Metadata → α
  /-- The metadata put in is read back. -/
  metadata_withMetadata : ∀ a m, metadata (withMetadata a m) = m
  /-- Metadata is replaced as a whole. -/
  withMetadata_withMetadata : ∀ a m m', withMetadata (withMetadata a m) m' = withMetadata a m'
  /-- Nothing changes with the metadata that is there. -/
  withMetadata_metadata : ∀ a, withMetadata a (metadata a) = a

attribute [simp] Resource.metadata_withMetadata Resource.withMetadata_withMetadata
  Resource.withMetadata_metadata

end WorkloadOperator
