import WorkloadOperator.Metadata

/-!
# Volume claims

The part of a PersistentVolumeClaim that the operator writes: how the volume may
be accessed, how large it is, and its storage class.
-/

namespace WorkloadOperator

namespace VolumeClaim

/-- What a claim asks for. -/
structure Spec where
  accessModes : Option (List String) := none
  /-- The requested amounts, by resource. -/
  requests : Option Labels := none
  storageClass : Option String := none
  deriving DecidableEq, Inhabited

end VolumeClaim

/-- A claim for a volume. -/
structure VolumeClaim where
  metadata : Metadata := {}
  spec : Option VolumeClaim.Spec := none
  deriving DecidableEq, Inhabited

namespace VolumeClaim

instance : Resource VolumeClaim where
  metadata := VolumeClaim.metadata
  withMetadata c m := { c with metadata := m }
  metadata_withMetadata _ _ := rfl
  withMetadata_withMetadata _ _ _ := rfl
  withMetadata_metadata _ := rfl

namespace Spec

/-- What a claim asks for, as JSON. -/
def encode (s : Spec) : Json :=
  .record [
    ("accessModes", s.accessModes.map .strs),
    ("resources", s.requests.map fun r => .record [("requests", some (.ofDict r))]),
    ("storageClassName", s.storageClass.map .str)]

/-- Read what a claim asks for. -/
def decode : Json → Decode.Result Spec :=
  Decode.resource "PersistentVolumeClaimSpec" fun members => do
    let accessModes ← Decode.nullable? "accessModes" (Decode.list Decode.string) members
    let resources ← Decode.nullable? "resources" (Decode.resource "VolumeResourceRequirements"
      (Decode.nullable? "requests" Decode.dict)) members
    let storageClass ← Decode.nullable? "storageClassName" Decode.string members
    .ok { accessModes, requests := resources.join, storageClass }

/-- The outline of what a claim asks for. -/
def outline : Outline :=
  .resource "PersistentVolumeClaimSpec" [
    ("accessModes", .list .text),
    ("resources", .resource "VolumeResourceRequirements" [("requests", .dict)]),
    ("storageClassName", .text)]

end Spec

/-- A claim as JSON. -/
def encode (c : VolumeClaim) : Json :=
  .record [
    ("apiVersion", some (.str "v1")),
    ("kind", some (.str "PersistentVolumeClaim")),
    ("metadata", some c.metadata.encode),
    ("spec", c.spec.map Spec.encode)]

/-- Read a claim. -/
def decode : Json → Decode.Result VolumeClaim :=
  Decode.resource "PersistentVolumeClaim" fun members => do
    let _ ← Decode.member? "apiVersion" (Decode.fixed "v1") members
    let _ ← Decode.member? "kind" (Decode.fixed "PersistentVolumeClaim") members
    let metadata ← Decode.nullable? "metadata" Metadata.decode members
    let spec ← Decode.nullable? "spec" Spec.decode members
    .ok { metadata := metadata.getD {}, spec }

/-- The outline of a claim. -/
def outline : Outline :=
  .object "v1" "PersistentVolumeClaim" [
    ("metadata", Metadata.outline),
    ("spec", Spec.outline)]

end VolumeClaim

end WorkloadOperator
