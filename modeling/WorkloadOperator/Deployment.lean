import WorkloadOperator.Metadata

/-!
# Deployments

The part of a Deployment that the operator writes and reads: the replicas, the
labels that select its pods, and a pod template with containers and volumes.
-/

namespace WorkloadOperator

namespace Deployment

/-- A variable of a container's environment. -/
structure Variable where
  name : String
  value : Option String := none
  deriving DecidableEq

/-- A secret whose keys become the environment of a container. -/
structure SecretSource where
  name : String
  optional : Option Bool := none
  deriving DecidableEq

/-- Where a container sees a volume. -/
structure Mount where
  volume : String
  path : String
  deriving DecidableEq

/-- A container of a pod. -/
structure Container where
  name : String
  image : Option String := none
  env : Option (List Variable) := none
  envFrom : Option (List (Option SecretSource)) := none
  mounts : Option (List Mount) := none
  deriving DecidableEq

/-- The claim behind a volume. -/
structure ClaimSource where
  claim : String
  readOnly : Option Bool := none
  deriving DecidableEq

/-- A volume of a pod. -/
structure Volume where
  name : String
  source : Option ClaimSource := none
  deriving DecidableEq

/-- What runs in a pod. -/
structure Pod where
  containers : List Container := []
  volumes : Option (List Volume) := none
  deriving DecidableEq, Inhabited

/-- What the pods of a workload are made from. -/
structure Template where
  metadata : Option Metadata := none
  pod : Option Pod := none
  deriving DecidableEq, Inhabited

/-- How pods are replaced. -/
structure Strategy where
  type : Option String := none
  deriving DecidableEq, Inhabited

/-- What a Deployment declares. -/
structure Spec where
  replicas : Option Int32 := none
  /-- The labels that select the pods. -/
  selector : Option Labels := none
  strategy : Option Strategy := none
  template : Template := {}
  deriving DecidableEq, Inhabited

/-- What was observed of a Deployment. -/
structure Status where
  replicas : Option Int32 := none
  readyReplicas : Option Int32 := none
  availableReplicas : Option Int32 := none
  deriving DecidableEq, Inhabited

end Deployment

/-- A Deployment. -/
structure Deployment where
  metadata : Metadata := {}
  spec : Option Deployment.Spec := none
  status : Option Deployment.Status := none
  deriving DecidableEq, Inhabited

namespace Deployment

instance : Resource Deployment where
  metadata := Deployment.metadata
  withMetadata d m := { d with metadata := m }
  metadata_withMetadata _ _ := rfl
  withMetadata_withMetadata _ _ _ := rfl
  withMetadata_metadata _ := rfl

/-- The ready replicas that were observed. -/
def readyReplicas (d : Deployment) : Int :=
  ((d.status.bind Status.readyReplicas).map (·.toInt)).getD 0

/-- The claims that the pods mount. -/
def claims (d : Deployment) : List String :=
  (((d.spec.bind (·.template.pod)).bind (·.volumes)).getD []).filterMap
    fun v => v.source.map (·.claim)

/-- The group and version of Deployments. -/
def apiVersion : String := "apps/v1"

/-! ## As JSON -/

namespace Variable

/-- A variable as JSON. -/
def encode (v : Variable) : Json :=
  .record [("name", some (.str v.name)), ("value", v.value.map .str)]

/-- Read a variable. -/
def decode : Json → Decode.Result Variable :=
  Decode.resource "EnvVar" fun members => do
    let name ← Decode.nullable? "name" Decode.string members
    let value ← Decode.nullable? "value" Decode.string members
    .ok { name := name.getD "", value }

/-- The outline of a variable. -/
def outline : Outline := .resource "EnvVar" [("name", .text), ("value", .text)]

end Variable

namespace SecretSource

/-- A secret source as JSON. -/
def encode (s : SecretSource) : Json :=
  .record [("name", some (.str s.name)), ("optional", s.optional.map .bool)]

/-- Read a secret source. -/
def decode : Json → Decode.Result SecretSource :=
  Decode.resource "SecretEnvSource" fun members => do
    let name ← Decode.nullable? "name" Decode.string members
    let optional ← Decode.nullable? "optional" Decode.boolean members
    .ok { name := name.getD "", optional }

/-- The outline of a secret source. -/
def outline : Outline := .resource "SecretEnvSource" [("name", .text), ("optional", .boolean)]

end SecretSource

namespace Mount

/-- A mount as JSON. -/
def encode (m : Mount) : Json :=
  .record [("mountPath", some (.str m.path)), ("name", some (.str m.volume))]

/-- Read a mount. -/
def decode : Json → Decode.Result Mount :=
  Decode.resource "VolumeMount" fun members => do
    let path ← Decode.nullable? "mountPath" Decode.string members
    let name ← Decode.nullable? "name" Decode.string members
    .ok { volume := name.getD "", path := path.getD "" }

/-- The outline of a mount. -/
def outline : Outline := .resource "VolumeMount" [("mountPath", .text), ("name", .text)]

end Mount

namespace Container

/-- A container as JSON. -/
def encode (c : Container) : Json :=
  .record [
    ("env", c.env.map fun vs => .arr (vs.map Variable.encode)),
    ("envFrom", c.envFrom.map fun ss =>
      .arr (ss.map fun s => .record [("secretRef", s.map SecretSource.encode)])),
    ("image", c.image.map .str),
    ("name", some (.str c.name)),
    ("volumeMounts", c.mounts.map fun ms => .arr (ms.map Mount.encode))]

/-- Read a container. -/
def decode : Json → Decode.Result Container :=
  Decode.resource "Container" fun members => do
    let env ← Decode.nullable? "env" (Decode.list Variable.decode) members
    let envFrom ← Decode.nullable? "envFrom" (Decode.list (Decode.resource "EnvFromSource"
      (Decode.nullable? "secretRef" SecretSource.decode))) members
    let image ← Decode.nullable? "image" Decode.string members
    let name ← Decode.nullable? "name" Decode.string members
    let mounts ← Decode.nullable? "volumeMounts" (Decode.list Mount.decode) members
    .ok { name := name.getD "", image, env, envFrom, mounts }

/-- The outline of a container. -/
def outline : Outline :=
  .resource "Container" [
    ("env", .list Variable.outline),
    ("envFrom", .list (.resource "EnvFromSource" [("secretRef", SecretSource.outline)])),
    ("image", .text),
    ("name", .text),
    ("volumeMounts", .list Mount.outline)]

end Container

namespace ClaimSource

/-- A claim source as JSON. -/
def encode (s : ClaimSource) : Json :=
  .record [("claimName", some (.str s.claim)), ("readOnly", s.readOnly.map .bool)]

/-- Read a claim source. -/
def decode : Json → Decode.Result ClaimSource :=
  Decode.resource "PersistentVolumeClaimVolumeSource" fun members => do
    let claim ← Decode.nullable? "claimName" Decode.string members
    let readOnly ← Decode.nullable? "readOnly" Decode.boolean members
    .ok { claim := claim.getD "", readOnly }

/-- The outline of a claim source. -/
def outline : Outline :=
  .resource "PersistentVolumeClaimVolumeSource" [("claimName", .text), ("readOnly", .boolean)]

end ClaimSource

namespace Volume

/-- A volume as JSON. -/
def encode (v : Volume) : Json :=
  .record [
    ("name", some (.str v.name)),
    ("persistentVolumeClaim", v.source.map ClaimSource.encode)]

/-- Read a volume. -/
def decode : Json → Decode.Result Volume :=
  Decode.resource "Volume" fun members => do
    let name ← Decode.nullable? "name" Decode.string members
    let source ← Decode.nullable? "persistentVolumeClaim" ClaimSource.decode members
    .ok { name := name.getD "", source }

/-- The outline of a volume. -/
def outline : Outline :=
  .resource "Volume" [("name", .text), ("persistentVolumeClaim", ClaimSource.outline)]

end Volume

namespace Pod

/-- A pod as JSON. -/
def encode (p : Pod) : Json :=
  .record [
    ("containers", some (.arr (p.containers.map Container.encode))),
    ("volumes", p.volumes.map fun vs => .arr (vs.map Volume.encode))]

/-- Read a pod. -/
def decode : Json → Decode.Result Pod :=
  Decode.resource "PodSpec" fun members => do
    let containers ← Decode.nullable? "containers" (Decode.list Container.decode) members
    let volumes ← Decode.nullable? "volumes" (Decode.list Volume.decode) members
    .ok { containers := containers.getD [], volumes }

/-- The outline of a pod. -/
def outline : Outline :=
  .resource "PodSpec" [("containers", .list Container.outline), ("volumes", .list Volume.outline)]

end Pod

namespace Template

/-- A pod template as JSON. -/
def encode (t : Template) : Json :=
  .record [("metadata", t.metadata.map Metadata.encode), ("spec", t.pod.map Pod.encode)]

/-- Read a pod template. -/
def decode : Json → Decode.Result Template :=
  Decode.resource "PodTemplateSpec" fun members => do
    let metadata ← Decode.nullable? "metadata" Metadata.decode members
    let pod ← Decode.nullable? "spec" Pod.decode members
    .ok { metadata, pod }

/-- The outline of a pod template. -/
def outline : Outline :=
  .resource "PodTemplateSpec" [("metadata", Metadata.outline), ("spec", Pod.outline)]

end Template

namespace Strategy

/-- A strategy as JSON. -/
def encode (s : Strategy) : Json := .record [("type", s.type.map .str)]

/-- Read a strategy. -/
def decode : Json → Decode.Result Strategy :=
  Decode.resource "DeploymentStrategy" fun members => do
    let type ← Decode.nullable? "type" Decode.string members
    .ok { type }

/-- The outline of a strategy. -/
def outline : Outline := .resource "DeploymentStrategy" [("type", .text)]

end Strategy

namespace Spec

/-- What a Deployment declares, as JSON. -/
def encode (s : Spec) : Json :=
  .record [
    ("replicas", s.replicas.map fun n => .int n.toInt),
    ("selector", some (.record [("matchLabels", s.selector.map .ofDict)])),
    ("strategy", s.strategy.map Strategy.encode),
    ("template", some s.template.encode)]

/-- Read what a Deployment declares. -/
def decode : Json → Decode.Result Spec :=
  Decode.resource "DeploymentSpec" fun members => do
    let replicas ← Decode.nullable? "replicas" Decode.int32 members
    let selector ← Decode.nullable? "selector" (Decode.resource "LabelSelector"
      (Decode.nullable? "matchLabels" Decode.dict)) members
    let strategy ← Decode.nullable? "strategy" Strategy.decode members
    let template ← Decode.nullable? "template" Template.decode members
    .ok { replicas, selector := selector.join, strategy, template := template.getD {} }

/-- The outline of what a Deployment declares. -/
def outline : Outline :=
  .resource "DeploymentSpec" [
    ("replicas", .int32),
    ("selector", .resource "LabelSelector" [("matchLabels", .dict)]),
    ("strategy", Strategy.outline),
    ("template", Template.outline)]

end Spec

namespace Status

/-- What was observed of a Deployment, as JSON. -/
def encode (s : Status) : Json :=
  .record [
    ("availableReplicas", s.availableReplicas.map fun n => .int n.toInt),
    ("readyReplicas", s.readyReplicas.map fun n => .int n.toInt),
    ("replicas", s.replicas.map fun n => .int n.toInt)]

/-- Read what was observed of a Deployment. -/
def decode : Json → Decode.Result Status :=
  Decode.resource "DeploymentStatus" fun members => do
    let availableReplicas ← Decode.nullable? "availableReplicas" Decode.int32 members
    let readyReplicas ← Decode.nullable? "readyReplicas" Decode.int32 members
    let replicas ← Decode.nullable? "replicas" Decode.int32 members
    .ok { replicas, readyReplicas, availableReplicas }

/-- The outline of what was observed of a Deployment. -/
def outline : Outline :=
  .resource "DeploymentStatus" [
    ("availableReplicas", .int32),
    ("readyReplicas", .int32),
    ("replicas", .int32)]

end Status

/-- A Deployment as JSON. -/
def encode (d : Deployment) : Json :=
  .record [
    ("apiVersion", some (.str apiVersion)),
    ("kind", some (.str "Deployment")),
    ("metadata", some d.metadata.encode),
    ("spec", d.spec.map Spec.encode),
    ("status", d.status.map Status.encode)]

/-- Read a Deployment. -/
def decode : Json → Decode.Result Deployment :=
  Decode.resource "Deployment" fun members => do
    let _ ← Decode.member? "apiVersion" (Decode.fixed apiVersion) members
    let _ ← Decode.member? "kind" (Decode.fixed "Deployment") members
    let metadata ← Decode.nullable? "metadata" Metadata.decode members
    let spec ← Decode.nullable? "spec" Spec.decode members
    let status ← Decode.nullable? "status" Status.decode members
    .ok { metadata := metadata.getD {}, spec, status }

/-- The outline of a Deployment. -/
def outline : Outline :=
  .object apiVersion "Deployment" [
    ("metadata", Metadata.outline),
    ("spec", Spec.outline),
    ("status", Status.outline)]

end Deployment

end WorkloadOperator
