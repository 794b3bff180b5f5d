import WorkloadOperator.Metadata

/-!
# Config maps

A ConfigMap holds texts by key.
-/

namespace WorkloadOperator

/-- A dictionary of texts that is stored as an object. -/
structure ConfigMap where
  metadata : Metadata := {}
  data : Option Labels := none
  deriving DecidableEq, Inhabited

namespace ConfigMap

instance : Resource ConfigMap where
  metadata := ConfigMap.metadata
  withMetadata c m := { c with metadata := m }
  metadata_withMetadata _ _ := rfl
  withMetadata_withMetadata _ _ _ := rfl
  withMetadata_metadata _ := rfl

/-- A ConfigMap as JSON. -/
def encode (c : ConfigMap) : Json :=
  .record [
    ("apiVersion", some (.str "v1")),
    ("data", c.data.map .ofDict),
    ("kind", some (.str "ConfigMap")),
    ("metadata", some c.metadata.encode)]

/-- Read a ConfigMap. -/
def decode : Json → Decode.Result ConfigMap :=
  Decode.resource "ConfigMap" fun members => do
    let _ ← Decode.member? "apiVersion" (Decode.fixed "v1") members
    let data ← Decode.nullable? "data" Decode.dict members
    let _ ← Decode.member? "kind" (Decode.fixed "ConfigMap") members
    let metadata ← Decode.nullable? "metadata" Metadata.decode members
    .ok { metadata := metadata.getD {}, data }

/-- The outline of a ConfigMap. -/
def outline : Outline :=
  .object "v1" "ConfigMap" [("data", .dict), ("metadata", Metadata.outline)]

end ConfigMap

end WorkloadOperator
