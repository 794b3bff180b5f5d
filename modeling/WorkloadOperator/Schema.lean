import WorkloadOperator.Json.Printer
import WorkloadOperator.Run

/-!
# Resource definitions

The definitions by which a cluster learns the two kinds of the operator: their
names, and the schemas that their objects have to meet.
-/

namespace WorkloadOperator

/-- What a value has to be. -/
structure Schema where
  /-- What the value is for, in words. -/
  description : Option String := none
  /-- The value that an absent one stands for. -/
  absent : Option Json := none
  /-- Whether null is allowed. -/
  isNullable : Bool := false
  /-- The members that are not the same for all schemas. -/
  content : List (String × Json)

namespace Schema

/-- A schema as JSON. -/
def encode (s : Schema) : Json :=
  .object (s.content ++
    (s.description.map fun d => ("description", Json.str d)).toList ++
    (s.absent.map fun a => ("default", a)).toList ++
    (if s.isNullable then [("nullable", .bool true)] else []))

/-- A text. -/
def text : Schema := { content := [("type", .str "string")] }

/-- A truth value. -/
def truth : Schema := { content := [("type", .str "boolean")] }

/-- An integer of 64 bits. -/
def integer : Schema := { content := [("format", .str "int64"), ("type", .str "integer")] }

/-- One of several names. -/
def oneOf (names : List String) : Schema :=
  { content := [("enum", .strs names), ("type", .str "string")] }

/-- A sequence. -/
def sequence (items : Schema) : Schema :=
  { content := [("items", items.encode), ("type", .str "array")] }

/-- A structure. -/
def struct (properties : List (String × Schema)) (required : List String) : Schema :=
  { content :=
      [("properties", .object (properties.map fun p => (p.1, p.2.encode))),
       ("type", .str "object")] ++
      (if required = [] then [] else [("required", .strs required)]) }

/-- The schema with words about it. -/
def about (s : Schema) (description : String) : Schema := { s with description := some description }

/-- The schema with null allowed. -/
def orNull (s : Schema) : Schema := { s with isNullable := true }

/-- The schema with a value for an absent one. -/
def orElse (s : Schema) (absent : Json) : Schema := { s with absent := some absent }

/-- What an Instance declares. -/
def instanceSpec : Schema :=
  struct [
    ("auth", (struct [("secretRefs", sequence text)] []).orNull.about
      "Provider credential references, consumed by the API layer."),
    ("channels", (sequence (struct [
        ("configSecretRef", text.orNull.about
          "Secret whose keys are injected as environment into the adapter."),
        ("type", oneOf (Channel.all.map Channel.name))] ["type"])).about
      ("Messaging integrations; each type gets its own adapter workload.\n\n" ++
       "Status lists one entry per declared item, in order. A type declared twice shares " ++
       "a single workload, so both entries report on it (the pass that creates it reports " ++
       "`Pending` then `Disconnected`).")),
    ("memory", (struct [("enabled", truth.orElse (.bool false))] []).orNull),
    ("policyRef", text.orNull)] []

/-- What is observed of an Instance. -/
def instanceStatus : Schema :=
  struct [
    ("activeRuns", integer.orElse (.int 0)),
    ("channels", (sequence (struct [
        ("status", oneOf (Channel.Link.all.map Channel.Link.name)),
        ("type", oneOf (Channel.all.map Channel.name))] ["status", "type"])).orElse (.arr [])),
    ("phase", (oneOf (Instance.Phase.all.map Instance.Phase.name)).orElse
      (Instance.Phase.pending.encode))] []

/-- What a Run declares. -/
def runSpec : Schema :=
  (struct [("instance", text), ("prompt", text.orNull)] ["instance"]).about
    ("One agent execution belonging to an Instance. Created by the API layer; " ++
     "the operator only reads its `instance` label and phase.")

/-- What is observed of a Run. -/
def runStatus : Schema :=
  struct [("phase", (oneOf (Run.Phase.all.map Run.Phase.name)).orNull)] []

end Schema

/-- A kind that a cluster is to learn. -/
structure Definition where
  kind : String
  plural : String
  singular : String
  /-- Short names for people. -/
  short : List String
  /-- The columns that lists show: name, type and path. -/
  columns : List (String × String × String)
  spec : Schema
  status : Schema

namespace Definition

/-- The group of the kinds. -/
def group : String := "agents.dev"

/-- The version of the kinds. -/
def version : String := "v1alpha1"

/-- A definition as JSON. -/
def encode (d : Definition) : Json :=
  let root := (Schema.struct [("spec", d.spec), ("status", d.status.orNull)] ["spec"]).about
    ("Auto-generated derived type for " ++ d.kind ++ "Spec via `CustomResource`")
  .object [
    ("apiVersion", .str "apiextensions.k8s.io/v1"),
    ("kind", .str "CustomResourceDefinition"),
    ("metadata", .object [("name", .str (d.plural ++ "." ++ group))]),
    ("spec", .object [
      ("group", .str group),
      ("names", .object [
        ("categories", .arr []),
        ("kind", .str d.kind),
        ("plural", .str d.plural),
        ("shortNames", .strs d.short),
        ("singular", .str d.singular)]),
      ("scope", .str "Namespaced"),
      ("versions", .arr [.object [
        ("additionalPrinterColumns", .arr (d.columns.map fun (name, type, path) =>
          .object [("jsonPath", .str path), ("name", .str name), ("type", .str type)])),
        ("name", .str version),
        ("schema", .object [("openAPIV3Schema",
          { root with content := ("title", .str d.kind) :: root.content }.encode)]),
        ("served", .bool true),
        ("storage", .bool true),
        ("subresources", .object [("status", .object [])])]])])]

/-- The definition of Instances. -/
def instances : Definition where
  kind := "Instance"
  plural := "instances"
  singular := "instance"
  short := ["inst"]
  columns := [("Phase", "string", ".status.phase"), ("Runs", "integer", ".status.activeRuns")]
  spec := Schema.instanceSpec
  status := Schema.instanceStatus

/-- The definition of Runs. -/
def runs : Definition where
  kind := "Run"
  plural := "runs"
  singular := "run"
  short := []
  columns := []
  spec := Schema.runSpec
  status := Schema.runStatus

/-- The definitions of both kinds as a stream of documents, one to a line. -/
def stream : String :=
  "---\n".intercalate ([instances, runs].map fun d => d.encode.text ++ "\n")

end Definition

end WorkloadOperator
