import Mathlib.Data.List.TakeWhile
import WorkloadOperator.Api.Client
import WorkloadOperator.Proofs.Cancellation
import WorkloadOperator.Proofs.Merging
import WorkloadOperator.Proofs.Restating
import WorkloadOperator.Proofs.Twins

/-!
# Two stores agree on patches

A cluster takes a patch of an Instance as a message, and a store in memory takes it as a request.
The cluster knows nothing of Instances: it compares the version that the body names with that of the
document that it has, merges the body into the document or into its status, and gives the document a
version of its own (`Part.patch?`).  The store in memory edits an Instance.

They come to the same.  The version that a patch is meant for is in the body whatever else the body
says (`TakesVersion.version?_withVersion`), so both refuse the patch or neither does.  If they do
not, then what the body says of the version makes no difference, since the cluster gives one of its
own (`TakesVersion.merge_withVersion_versioning`).  So the document states the Instance that the
store has afterwards, apart from its version (`patches_agree`), and is read as this Instance
(`States.decode`).  Both differ from what they were in what the patch is for, and in nothing else.
-/

namespace WorkloadOperator

/-! ## Records -/

namespace Json

variable {fields : List (String × Option Json)} {value : Json}

theorem ascending_record (h : Entries.Ascending fields) :
    Entries.Ascending (record fields).members := by
  refine List.pairwise_filterMap.2 (h.imp ?_)
  intro m m' hlt e he e' he'
  obtain ⟨_, -, rfl⟩ := Option.map_eq_some_iff.1 he
  obtain ⟨_, -, rfl⟩ := Option.map_eq_some_iff.1 he'
  exact hlt

theorem get?_record (h : Entries.Ascending fields) (key : String) :
    (record fields).get? key = (Entries.get? key fields).join :=
  Decode.get?_record h.nodup

/-- A patch of one member of a record changes that member. -/
theorem merge_record (h : Entries.Ascending fields) (key : String) (hvalue : value ≠ .null) :
    (record fields).merge (.obj [(key, value)]) =
      record (Entries.insert key
        (some (((Entries.get? key fields).join.getD .null).merge value)) fields) := by
  have hafter := h.insert key (some (((Entries.get? key fields).join.getD .null).merge value))
  refine congrArg obj (Entries.eq_of_get?_eq (ascending_merge (ascending_record h) _)
    (ascending_record hafter) fun key' => ?_)
  have hread : (obj [(key, value)]).get? key' = if key = key' then some value else none := rfl
  refine (get?_merge (List.pairwise_singleton _ _) _ key').trans ?_
  refine Eq.trans ?_ (get?_record hafter key').symm
  rw [hread, get?_record h, Entries.get?_insert]
  by_cases hkey : key = key'
  · subst hkey
    rw [if_pos rfl, if_pos rfl, revised?_some hvalue]
    rfl
  · rw [if_neg hkey, if_neg hkey]
    rfl

/-- What a patch says of a member may as well be said by a patch after it, if that member comes to
the same. -/
theorem merge_set {target value' : Json} {members : List (String × Json)}
    (ht : Entries.Ascending target.members) (hpatch : Entries.Ascending members) (key : String)
    (h : revised? (target.get? key) (some value') =
      revised? (revised? (target.get? key) ((obj members).get? key)) (some value)) :
    target.merge ((obj members).set key value') =
      (target.merge (obj members)).merge (obj [(key, value)]) := by
  refine merge_obj_eq ht (ascending_merge ht members) fun key' => ?_
  have hset : (obj (Entries.insert key value' members)).get? key' =
      if key = key' then some value' else (obj members).get? key' := Entries.get?_insert ..
  have hread : (obj [(key, value)]).get? key' = if key = key' then some value else none := rfl
  rw [get?_merge (hpatch.insert key value'), get?_merge (List.pairwise_singleton _ _),
    get?_merge hpatch, hset, hread]
  by_cases hkey : key = key'
  · subst hkey
    rw [if_pos rfl, if_pos rfl]
    exact h
  · rw [if_neg hkey, if_neg hkey]
    rfl

end Json

/-! ## Documents -/

namespace Metadata

/-- The members of metadata, those that are missing included. -/
def fields (m : Metadata) : List (String × Option Json) := [
  ("annotations", m.annotations.map .ofDict),
  ("creationTimestamp", m.creationTimestamp.map Moment.encode),
  ("deletionTimestamp", m.deletionTimestamp.map Moment.encode),
  ("finalizers", m.finalizers.map .strs),
  ("generateName", m.generateName.map .str),
  ("generation", m.generation.map fun g => .int g.toInt),
  ("labels", m.labels.map .ofDict),
  ("name", m.name.map .str),
  ("namespace", m.ns.map .str),
  ("ownerReferences", m.ownerReferences.map fun os => .arr (os.map OwnerReference.encode)),
  ("resourceVersion", m.resourceVersion.map .str),
  ("uid", m.uid.map .str)]

theorem ascending_fields (m : Metadata) : Entries.Ascending m.fields := by
  have keys : (m.fields.map Prod.fst).Pairwise (· < ·) := by
    simp only [fields, List.map_cons, List.map_nil]
    decide
  exact List.pairwise_map.1 keys

/-- Metadata that is given a version. -/
theorem merge_version (m : Metadata) (version : String) :
    m.encode.merge (.obj [("resourceVersion", .str version)]) =
      { m with resourceVersion := some version }.encode := by
  have hvalue : Json.str version ≠ .null := nofun
  exact Json.merge_record m.ascending_fields "resourceVersion" hvalue

/-- Metadata whose finalizers are replaced. -/
theorem merge_finalizers (m : Metadata) (finalizers : List String) :
    m.encode.merge (.obj [("finalizers", .strs finalizers)]) =
      { m with finalizers := some finalizers }.encode := by
  have hvalue : Json.strs finalizers ≠ .null := nofun
  exact Json.merge_record m.ascending_fields "finalizers" hvalue

end Metadata

namespace Json

/-- The members of a document, the status included if it is missing. -/
def parts (kind : String) (metadata declared : Json) (observed : Option Json) :
    List (String × Option Json) := [
  ("apiVersion", some (.str apiVersion)),
  ("kind", some (.str kind)),
  ("metadata", some metadata),
  ("spec", some declared),
  ("status", observed)]

theorem ascending_parts (kind : String) (metadata declared : Json) (observed : Option Json) :
    Entries.Ascending (parts kind metadata declared observed) := by
  have keys : ((parts kind metadata declared observed).map Prod.fst).Pairwise (· < ·) := by
    simp only [parts, List.map_cons, List.map_nil]
    decide
  exact List.pairwise_map.1 keys

/-- A document whose metadata is patched. -/
theorem merge_metadata (kind : String) (metadata declared : Json) (observed : Option Json)
    {patch : Json} (hpatch : patch ≠ .null) :
    (record (parts kind metadata declared observed)).merge (.obj [("metadata", patch)]) =
      record (parts kind (metadata.merge patch) declared observed) :=
  merge_record (ascending_parts kind metadata declared observed) "metadata" hpatch

/-- A document whose status is patched. -/
theorem merge_status (kind : String) (metadata declared : Json) (observed : Option Json)
    {patch : Json} (hpatch : patch ≠ .null) :
    (record (parts kind metadata declared observed)).merge (.obj [("status", patch)]) =
      record (parts kind metadata declared (some ((observed.getD .null).merge patch))) :=
  merge_record (ascending_parts kind metadata declared observed) "status" hpatch

end Json

/-! ## Clusters -/

namespace Api

/-- The part of an Instance to which a patch is sent. -/
inductive Part where
  | whole
  | status
  deriving DecidableEq

/-- What follows the path of an Instance in that of a part. -/
def Part.suffix : Part → String
  | .whole => ""
  | .status => "/status"

/-- What of a body reaches a part. -/
def Part.reached : Part → Json → Json
  | .whole, body => body
  | .status, body => .record [("status", body.get? "status")]

/-- The version that a document has, or that a patch is meant for. -/
def version? (j : Json) : Option Json := (j.get? "metadata").bind (·.get? "resourceVersion")

/-- What gives a document a version. -/
def versioning (version : String) : Json :=
  .obj [("metadata", .obj [("resourceVersion", .str version)])]

/-- What a cluster makes of a document with a merge patch, and with a version that it gives.  It
refuses a patch that is meant for another version. -/
def Part.patch? (part : Part) (document body : Json) (version : String) : Option Json :=
  if version? body = none ∨ version? body = version? document then
    some ((document.merge (part.reached body)).merge (versioning version))
  else none

/-- The message that patches a part of the Instance under a key. -/
def Client.patchOf (c : Client) (key : Key) (part : Part) (body : Json) : Message where
  method := .patch
  path := path .inst key ++ part.suffix
  query := [("fieldManager", c.manager)]
  body := some (.mergePatch, body)

/-- Nothing about the names keeps a patch from being sent. -/
structure Client.Sends (c : Client) (key : Key) (part : Part) (body : Json) : Prop where
  named : key.name ≠ ""
  manager : c.manager.utf8ByteSize ≤ longestManager
  plain : ∀ x ∈ (path .inst key ++ part.suffix).toList,
    Target.mayStandInPath x = true ∧ x ≠ '?' ∧ x ≠ '#'
  short : (c.patchOf key part body).targetSize ≤ Target.longest

/-- A request is sent as a patch with this body, if it is sent at all, and it is sent to this part
of the Instance under this key, if nothing about the names keeps it from being sent. -/
def Client.Patches (c : Client) (r : Request) (key : Key) (part : Part) (body : Json) : Prop :=
  (∀ m, c.message r = .ok m → m.method = .patch ∧ m.body = some (.mergePatch, body)) ∧
    (c.Sends key part body → c.message r = .ok (c.patchOf key part body))

theorem addressed_cases {m m' : Message} (h : m.addressed = .ok m') :
    m'.method = m.method ∧ m'.body = m.body := by
  simp only [Message.addressed] at h
  repeat' split at h
  all_goals cases h
  all_goals exact ⟨rfl, rfl⟩

/-- A message arrives as it is meant if its path holds no mark. -/
theorem addressed_plain {m : Message} (hshort : m.targetSize ≤ Target.longest)
    (hplain : ∀ x ∈ m.path.toList, Target.mayStandInPath x = true ∧ x ≠ '?' ∧ x ≠ '#') :
    m.addressed = .ok m := by
  have hpath : m.path.toList.takeWhile (fun x => x ≠ '?' && x ≠ '#') = m.path.toList :=
    List.takeWhile_eq_self_iff.2 fun x hx => by simpa using (hplain x hx).2
  have hall : m.path.toList.all Target.mayStandInPath = true :=
    List.all_eq_true.2 fun x hx => (hplain x hx).1
  have hrest : m.path.toList.drop m.path.toList.length = [] := List.drop_length
  simp only [Message.addressed, hpath, hall, hrest, if_neg (Nat.not_lt.2 hshort), Bool.not_true,
    Bool.false_eq_true, if_false]

section

variable {c : Client} {key : Key} {body : Json}

theorem Client.patching_cases (part : Part) {m : Message}
    (h : c.patching key part.suffix body = .ok m) :
    m.method = .patch ∧ m.body = some (.mergePatch, body) := by
  simp only [patching, bind, Except.bind] at h
  split at h
  · cases h
  split at h
  · cases h
  · exact addressed_cases h

theorem Client.Sends.patching {part : Part} (h : c.Sends key part body) :
    c.patching key part.suffix body = .ok (c.patchOf key part body) := by
  have hnamed : Client.named key = .ok () := if_neg h.named
  have hmanaged : c.managed .patchManager = .ok [("fieldManager", c.manager)] :=
    if_neg (Nat.not_lt.2 h.manager)
  simp only [Client.patching, hnamed, hmanaged, bind, Except.bind]
  exact addressed_plain h.short h.plain

end

theorem Client.patches_finalizers (c : Client) (key : Key) (version : Option String)
    (finalizers : List String) :
    c.Patches (.patchFinalizers key version finalizers) key .whole
      (finalizersBody version finalizers) :=
  ⟨fun _ => patching_cases .whole, Sends.patching⟩

theorem Client.patches_status (c : Client) (key : Key) (version : Option String) (patch : Json) :
    c.Patches (.patchStatus key version patch) key .status (statusBody version patch) :=
  ⟨fun _ => patching_cases .status, Sends.patching⟩

/-! ## Versions -/

theorem get?_metadata_encode (i : Instance) : i.encode.get? "metadata" = some i.metadata.encode :=
  Json.get?_record (Json.ascending_parts _ _ _ _) "metadata"

theorem version?_encode (i : Instance) :
    version? i.encode = i.metadata.resourceVersion.map .str := by
  rw [version?, get?_metadata_encode]
  exact Json.get?_record i.metadata.ascending_fields "resourceVersion"

theorem merge_versioning (kind : String) (m : Metadata) (js : Json) (jt : Option Json)
    (w : String) :
    (Json.document kind m js jt).merge (versioning w) =
      .document kind { m with resourceVersion := some w } js jt := by
  have hpatch : Json.obj [("resourceVersion", .str w)] ≠ .null := nofun
  refine (Json.merge_metadata kind m.encode js jt hpatch).trans ?_
  rw [m.merge_version w]
  rfl

/-- A version can be named in a body with these members. -/
structure TakesVersion (members : List (String × Json)) : Prop where
  ascending : Entries.Ascending members
  metadata : ∀ m ∈ (Json.obj members).get? "metadata",
    ∃ fields, m = .obj fields ∧ Entries.Ascending fields

theorem takesVersion_finalizers (finalizers : List String) :
    TakesVersion [("metadata", .obj [("finalizers", .strs finalizers)])] where
  ascending := List.pairwise_singleton _ _
  metadata := by
    rintro m ⟨⟩
    exact ⟨_, rfl, List.pairwise_singleton _ _⟩

theorem takesVersion_status (patch : Json) : TakesVersion [("status", patch)] where
  ascending := List.pairwise_singleton _ _
  metadata := by rintro m ⟨⟩

/-- A version is named in the metadata of a body, and nowhere else. -/
theorem get?_withVersion (version : Option String) (body : Json) {key : String}
    (h : "metadata" ≠ key) : (Client.withVersion version body).get? key = body.get? key := by
  cases version with
  | none => rfl
  | some v =>
    cases body with
    | obj members => exact (Entries.get?_insert ..).trans (if_neg h)
    | null | bool | int | double | str | arr => rfl

namespace TakesVersion

variable {members : List (String × Json)}

/-- A body names the version that it was given, whatever else its metadata says. -/
theorem version?_withVersion (h : TakesVersion members) (version : Option String) :
    version? (Client.withVersion version (.obj members)) =
      (version.map .str).or (version? (.obj members)) := by
  cases version with
  | none => rfl
  | some v =>
    have hobj : ∃ fields, ((Json.obj members).get? "metadata").getD (.obj []) = .obj fields := by
      cases hget : (Json.obj members).get? "metadata" with
      | none => exact ⟨[], rfl⟩
      | some m =>
        obtain ⟨fields, rfl, -⟩ := h.metadata m hget
        exact ⟨fields, rfl⟩
    obtain ⟨fields, hfields⟩ := hobj
    have hread : (Client.withVersion (some v) (.obj members)).get? "metadata" =
        some ((Json.obj fields).set "resourceVersion" (.str v)) := by
      rw [← hfields]
      exact (Entries.get?_insert ..).trans (if_pos rfl)
    rw [version?, hread]
    exact (Entries.get?_insert ..).trans (if_pos rfl)

/-- A version that a body names comes to the same as one that is given after the patch. -/
theorem merge_withVersion (h : TakesVersion members) {target : Json}
    (ht : Entries.Ascending target.members)
    (hmetadata : Entries.Ascending ((target.get? "metadata").getD .null).members) (v : String) :
    target.merge (Client.withVersion (some v) (.obj members)) =
      (target.merge (.obj members)).merge (versioning v) := by
  refine Json.merge_set ht h.ascending "metadata" ?_
  cases hget : (Json.obj members).get? "metadata" with
  | none => rfl
  | some m =>
    obtain ⟨fields, rfl, hfields⟩ := h.metadata m hget
    exact congrArg some (Json.merge_set hmetadata hfields "resourceVersion" rfl)

/-- The version that a body names is lost in a document that is given another one. -/
theorem merge_withVersion_versioning (h : TakesVersion members) {i : Instance} {m : Metadata}
    {js : Json} {jt : Option Json}
    (hmerge : i.encode.merge (.obj members) = .document "Instance" m js jt)
    (version : Option String) (w : String) :
    (i.encode.merge (Client.withVersion version (.obj members))).merge (versioning w) =
      .document "Instance" { m with resourceVersion := some w } js jt := by
  cases version with
  | none => rw [Client.withVersion, hmerge, merge_versioning]
  | some v =>
    have hencode : Entries.Ascending i.encode.members :=
      Json.ascending_record (Json.ascending_parts _ _ _ _)
    have hmetadata : Entries.Ascending ((i.encode.get? "metadata").getD .null).members := by
      rw [get?_metadata_encode]
      exact Json.ascending_record i.metadata.ascending_fields
    rw [h.merge_withVersion hencode hmetadata, hmerge, merge_versioning, merge_versioning]

end TakesVersion

theorem version?_finalizersBody (version : Option String) (finalizers : List String) :
    version? (Client.finalizersBody version finalizers) = version.map .str :=
  ((takesVersion_finalizers finalizers).version?_withVersion version).trans Option.or_none

theorem version?_statusBody (version : Option String) (patch : Json) :
    version? (Client.statusBody version patch) = version.map .str :=
  ((takesVersion_status patch).version?_withVersion version).trans Option.or_none

/-! ## Patches -/

/-- A cluster takes a patch exactly if the store in memory would, as far as versions go. -/
theorem patch?_encode {part : Part} {body : Json} {version : Option String}
    (hbody : version? body = version.map .str) (i : Instance) (w : String) :
    part.patch? i.encode body w =
      if Store.meantFor version i then
        some ((i.encode.merge (part.reached body)).merge (versioning w))
      else none := by
  rw [Part.patch?, hbody, version?_encode]
  cases version with
  | none => rfl
  | some v =>
    cases hv : i.metadata.resourceVersion with
    | none => simp [Store.meantFor, hv]
    | some v' => by_cases h : v = v' <;> simp [Store.meantFor, hv, h, eq_comm]

/-- What a cluster makes of the document of an Instance whose finalizers are replaced. -/
theorem patch?_finalizers (i : Instance) (version : Option String) (finalizers : List String)
    (w : String) :
    Part.whole.patch? i.encode (Client.finalizersBody version finalizers) w =
      if Store.meantFor version i then
        some { i with
          metadata := { i.metadata with
            finalizers := some finalizers
            resourceVersion := some w } }.encode
      else none := by
  have hpatch : Json.obj [("finalizers", .strs finalizers)] ≠ .null := nofun
  have hmerge : i.encode.merge (.obj [("metadata", .obj [("finalizers", .strs finalizers)])]) =
      .document "Instance" { i.metadata with finalizers := some finalizers } i.spec.encode
        (i.status.map Instance.Status.encode) := by
    refine (Json.merge_metadata "Instance" i.metadata.encode i.spec.encode _ hpatch).trans ?_
    rw [i.metadata.merge_finalizers finalizers]
    rfl
  rw [patch?_encode (version?_finalizersBody version finalizers), Part.reached,
    Client.finalizersBody, (takesVersion_finalizers finalizers).merge_withVersion_versioning hmerge]
  rfl

/-- What a cluster makes of the document of an Instance whose status is patched. -/
theorem patch?_status (i : Instance) (version : Option String) {patch : Json}
    (hpatch : patch ≠ .null) (w : String) :
    Part.status.patch? i.encode (Client.statusBody version patch) w =
      if Store.meantFor version i then
        some (.document "Instance" { i.metadata with resourceVersion := some w } i.spec.encode
          (some (((i.status.map Instance.Status.encode).getD .null).merge patch)))
      else none := by
  have hreached : Part.status.reached (Client.statusBody version patch) =
      .obj [("status", patch)] := by
    rw [Client.statusBody, Part.reached, get?_withVersion version _ (by decide)]
    rfl
  have hmerge : i.encode.merge (.obj [("status", patch)]) =
      .document "Instance" i.metadata i.spec.encode
        (some (((i.status.map Instance.Status.encode).getD .null).merge patch)) :=
    Json.merge_status "Instance" i.metadata.encode i.spec.encode _ hpatch
  rw [patch?_encode (version?_statusBody version patch), hreached, hmerge, merge_versioning]

/-! ## Agreement -/

/-- A document is that of an Instance whose status is stated by a value. -/
def States (doc : Json) (i : Instance) (observed : Option Json) : Prop :=
  doc = .document "Instance" i.metadata i.spec.encode observed ∧
    Decode.given (Decode.optional Instance.Status.decode) observed = .ok (i.status.map some)

theorem states_encode (i : Instance) :
    States i.encode i (i.status.map Instance.Status.encode) :=
  ⟨rfl, Decode.given_optional_map _ _ nofun fun status _ => status.decode_encode⟩

/-- Such a document is read as the Instance if its dates are known. -/
theorem States.decode {doc : Json} {i : Instance} {observed : Option Json}
    (h : States doc i observed) (hdated : i.metadata.Dated) : Instance.decode doc = .ok i := by
  obtain ⟨rfl, hobserved⟩ := h
  exact Decode.document_document hdated i.spec.decode_encode hobserved "Instance"

/-- A cluster and a store come to the same with a patch.  Either both refuse it, because the
Instance has another version, or both take it.  Then what the cluster has states what the patch
makes of the Instance, with the version that the cluster gives, and the store has the same with its
own version, unless it drops the Instance. -/
def Concur (answer : Option Json) (w : String) (s : Store) (r : Request) (key : Key)
    (version : Option String) (i i' : Instance) (observed : Option Json) (dropped : Prop)
    [Decidable dropped] : Prop :=
  answer = none ∧ s.serve r = (.error (Store.modified i (version.getD "")), s) ∨
    ∃ doc, answer = some doc ∧ States doc (i'.revised (some w)) observed ∧
      (s.serve r).1.isOk = true ∧
      (s.serve r).2.find? .inst key =
        if dropped then none else some (i'.revised (some s.bump.versionText))

section

variable {s : Store} {key : Key} {i : Instance} {version : Option String}

theorem concur_finalizers (hi : s.find? .inst key = some i) (hfault : ¬ s.Faulty .patch .inst)
    (finalizers : List String) (w : String) :
    Concur (Part.whole.patch? i.encode (Client.finalizersBody version finalizers) w) w s
      (.patchFinalizers key version finalizers) key version i
      { i with metadata := { i.metadata with finalizers := some finalizers } }
      (i.status.map Instance.Status.encode) (i.isDeleting = true ∧ finalizers = []) := by
  have hserve := Store.serve_of_not_faulty (r := .patchFinalizers key version finalizers) hfault
  rw [Concur, patch?_finalizers, hserve]
  by_cases hmeant : Store.meantFor version i = true
  · refine .inr ⟨_, if_pos hmeant, states_encode _, ?_⟩
    simp only [Store.answer, hi, if_pos hmeant]
    split
    · exact ⟨rfl, Store.find?_drop_self⟩
    · exact ⟨rfl, Store.find?_put_self _⟩
  · refine .inl ⟨if_neg hmeant, ?_⟩
    simp only [Store.answer, hi, if_neg hmeant]

/-- What a patch with members makes of a status. -/
def patchedStatus (i : Instance) (members : List (String × Json)) : Json :=
  ((i.status.map Instance.Status.encode).getD .null).merge (.obj members)

theorem concur_status (hi : s.find? .inst key = some i) (hfault : ¬ s.Faulty .patch .inst)
    {members : List (String × Json)} {status : Instance.Status}
    (hstatus : Instance.Status.decode (patchedStatus i members) = .ok status) (w : String) :
    Concur (Part.status.patch? i.encode (Client.statusBody version (.obj members)) w) w s
      (.patchStatus key version (.obj members)) key version i { i with status := some status }
      (some (patchedStatus i members)) False := by
  have hserve := Store.serve_of_not_faulty (r := .patchStatus key version (.obj members)) hfault
  have hpatch : Json.obj members ≠ .null := nofun
  have hread : Decode.given (Decode.optional Instance.Status.decode)
      (some (patchedStatus i members)) = .ok (some (some status)) := by
    have hne : patchedStatus i members ≠ .null := nofun
    rw [Decode.given, Decode.optional_of_ne_null hne, hstatus]
    rfl
  rw [Concur, patch?_status i version hpatch, hserve]
  by_cases hmeant : Store.meantFor version i = true
  · refine .inr ⟨_, if_pos hmeant, ⟨rfl, hread⟩, ?_⟩
    rw [patchedStatus] at hstatus
    simp only [Store.answer, hi, if_pos hmeant, hstatus, if_false]
    exact ⟨rfl, (Store.find?_record ..).trans (Store.find?_put_self _)⟩
  · refine .inl ⟨if_neg hmeant, ?_⟩
    simp only [Store.answer, hi, if_neg hmeant]

/-- Whatever an Instance is like and whatever version a patch is meant for, the body that a cluster
is sent names that version, and the cluster and the store in memory come to the same with the
patch.  The finalizers are all that a patch of the finalizers changes, and the status is all that a
patch of the status changes, if what comes of it is read as a status. -/
theorem patches_agree (c : Client) (hi : s.find? .inst key = some i)
    (hfault : ¬ s.Faulty .patch .inst) (version : Option String) (w : String) :
    (∀ finalizers : List String,
      let r := Request.patchFinalizers key version finalizers
      let body := Client.finalizersBody version finalizers
      c.Patches r key .whole body ∧ version? body = version.map .str ∧
        Concur (Part.whole.patch? i.encode body w) w s r key version i
          { i with metadata := { i.metadata with finalizers := some finalizers } }
          (i.status.map Instance.Status.encode) (i.isDeleting = true ∧ finalizers = [])) ∧
    ∀ (members : List (String × Json)) (status : Instance.Status),
      Instance.Status.decode (patchedStatus i members) = .ok status →
      let r := Request.patchStatus key version (.obj members)
      let body := Client.statusBody version (.obj members)
      c.Patches r key .status body ∧ version? body = version.map .str ∧
        Concur (Part.status.patch? i.encode body w) w s r key version i
          { i with status := some status } (some (patchedStatus i members)) False := by
  refine ⟨fun finalizers => ⟨c.patches_finalizers key version finalizers,
      version?_finalizersBody version finalizers, concur_finalizers hi hfault finalizers w⟩,
    fun members status hstatus => ⟨c.patches_status key version _,
      version?_statusBody version _, concur_status hi hfault hstatus w⟩⟩

end

/-- Finalizers for a version that is gone are refused, and a status for the version that is there is
taken, of which one member is dropped, one is replaced and one is kept. -/
theorem patches_agree_stale_then_current :
    let c : Client := ⟨"operator"⟩
    let key : Key := ⟨"tenant", "bot"⟩
    let s := Store.empty.run [.insertInstance {
      metadata := { name := some "bot", ns := some "tenant" }
      status := some { phase := .error, channels := [⟨.telegram, .connected⟩], activeRuns := 2 } }]
    let members := [("activeRuns", .null), ("phase", .str "Running")]
    let after : Instance.Status :=
      { phase := .running, channels := [⟨.telegram, .connected⟩], activeRuns := 0 }
    let stale := Request.patchFinalizers key (some "0") ["keep"]
    let current := Request.patchStatus key (some "1") (.obj members)
    let body := Client.statusBody (some "1") (.obj members)
    ¬ s.Faulty .patch .inst ∧ c.message current = .ok (c.patchOf key .status body) ∧
      ∃ i, s.find? .inst key = some i ∧
        Instance.Status.decode (patchedStatus i members) = .ok after ∧
        Part.whole.patch? i.encode (Client.finalizersBody (some "0") ["keep"]) "7" = none ∧
        s.serve stale = (.error (Store.modified i "0"), s) ∧
        ∃ doc, Part.status.patch? i.encode body "7" = some doc ∧
          States doc ({ i with status := some after }.revised (some "7"))
            (some (patchedStatus i members)) ∧
          (s.serve current).2.find? .inst key =
            some ({ i with status := some after }.revised (some "2")) := by
  intro c key s members after stale current body
  have calm : ¬ s.Faulty .patch .inst := by decide +kernel
  obtain ⟨i, hi⟩ := Option.isSome_iff_exists.1
    (show (s.find? .inst key).isSome = true by decide +kernel)
  have status : ∀ i ∈ s.find? .inst key,
      Instance.Status.decode (patchedStatus i members) = .ok after := by decide +kernel
  have refused : ∀ i ∈ s.find? .inst key,
      Part.whole.patch? i.encode (Client.finalizersBody (some "0") ["keep"]) "7" = none := by
    decide +kernel
  have taken : ∀ i ∈ s.find? .inst key, Part.status.patch? i.encode body "7" ≠ none := by
    decide +kernel
  have plain : (path .inst key ++ Part.status.suffix).toList.all
      (fun x => Target.mayStandInPath x && x != '?' && x != '#') = true := by decide +kernel
  have sends : c.Sends key .status body := {
    named := by decide
    manager := by decide +kernel
    plain := fun x hx => by simpa [and_assoc] using List.all_eq_true.1 plain x hx
    short := by decide +kernel }
  obtain ⟨-, -, before⟩ := (patches_agree c hi calm (some "0") "7").1 ["keep"]
  obtain ⟨sent, -, after⟩ := (patches_agree c hi calm (some "1") "7").2 members after (status i hi)
  obtain ⟨-, hstale⟩ | ⟨doc, hdoc, -⟩ := before
  · obtain ⟨hnone, -⟩ | ⟨doc, hdoc, states, -, found⟩ := after
    · exact absurd hnone (taken i hi)
    · have version : s.bump.versionText = "2" := by decide +kernel
      rw [if_neg not_false, version] at found
      exact ⟨calm, sent.2 sends, i, hi, status i hi, refused i hi, hstale, doc, hdoc, states, found⟩
  · cases (refused i hi).symm.trans hdoc

end Api

end WorkloadOperator
