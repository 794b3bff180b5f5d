import WorkloadOperator.Proofs.Transcribing

/-!
# Documents are restated without loss

An object that is written and read again is what it was, whatever parts of it are there, and with
a status exactly if it had one.  So no two objects are written alike.  A document can be spelled in
many ways: its members in any order, unknown ones between them, null for what is missing, or its
fields in a row.  Once it is read and written anew, it stays as it is (`Decode.Faithful`).

An Instance and a Run are both metadata, a declaration and a status.  `Decode.document` reads
either, and what holds of it is proved once.
-/

namespace WorkloadOperator

namespace Decode

variable {α σ τ : Type}

/-- Read a document and write it anew. -/
def restate (decode : Json → Result α) (encode : α → Json) (j : Json) : Result Json :=
  (decode j).map encode

/-- Writing and reading undo each other, as far as there is but one way to write. -/
structure Faithful (decode : Json → Result α) (encode : α → Json) (proper : α → Prop) : Prop where
  /-- A proper value is read as it was written. -/
  readBack : ∀ a, proper a → decode (encode a) = .ok a
  /-- No two of them are written alike. -/
  injective : ∀ a b, proper a → proper b → encode a = encode b → a = b
  /-- Whatever is read is proper. -/
  proper : ∀ j a, decode j = .ok a → proper a
  /-- A document that was restated is accepted, and restated as it is. -/
  settled : ∀ j j', restate decode encode j = .ok j' → restate decode encode j' = .ok j'

theorem faithful_of_readBack {decode : Json → Result α} {encode : α → Json} {proper : α → Prop}
    (hread : ∀ a, proper a → decode (encode a) = .ok a)
    (hproper : ∀ j a, decode j = .ok a → proper a) : Faithful decode encode proper where
  readBack := hread
  injective a b ha hb hab := by
    have h := hread a ha
    rw [hab, hread b hb] at h
    exact (Except.ok.inj h).symm
  proper := hproper
  settled j j' h := by
    obtain ⟨a, ha, rfl⟩ := of_map_eq_ok h
    rw [restate, hread a (hproper j a ha)]
    rfl

/-- Every value of the type is read as it was written. -/
theorem faithful_of_forall {decode : Json → Result α} {encode : α → Json}
    (h : ∀ a, decode (encode a) = .ok a) : Faithful decode encode fun _ => True :=
  faithful_of_readBack (fun a _ => h a) fun _ _ _ => trivial

theorem getD_unless_nil (as : List α) : (if as = [] then none else some as).getD [] = as := by
  split
  · next h => exact h.symm
  · rfl

end Decode

/-! ## Parts of documents -/

theorem Channel.decode_encode (c : Channel) : decode c.encode = .ok c := by
  cases c <;> rfl

theorem Channel.Declaration.decode_encode (d : Channel.Declaration) :
    decode d.encode = .ok d := by
  have hchannel : Decode.given Channel.decode (some d.channel.encode) = .ok (some d.channel) := by
    rw [Decode.given, d.channel.decode_encode]
    rfl
  simp [decode, encode, Decode.decode_record, Decode.member?_record, Entries.get?_cons,
    Decode.given_text, hchannel, Decode.required, Decode.join_map_some, bind, Except.bind]

namespace Instance

theorem Memory.decode_encode (m : Memory) : decode m.encode = .ok m := rfl

theorem Credentials.decode_encode (c : Credentials) : decode c.encode = .ok c := by
  have hsecrets := Decode.given_list Decode.string_str c.secrets
  simp only [decode, encode, Decode.decode_record, Json.strs]
  rw [Decode.member?_record (by simp)]
  simp [Entries.get?_cons, hsecrets, Decode.getD_unless_nil, bind, Except.bind]

theorem Spec.decode_encode (s : Spec) : decode s.encode = .ok s := by
  have hcredentials : Decode.given (Decode.optional Credentials.decode)
      (s.credentials.map Credentials.encode) = .ok (s.credentials.map some) :=
    Decode.given_optional_map _ _ nofun fun c _ => c.decode_encode
  have hmemory : Decode.given (Decode.optional Memory.decode) (s.memory.map Memory.encode) =
      .ok (s.memory.map some) :=
    Decode.given_optional_map _ _ nofun fun m _ => m.decode_encode
  have hchannels := Decode.given_list Channel.Declaration.decode_encode s.channels
  simp [decode, encode, Decode.decode_record, Decode.member?_record, Entries.get?_cons,
    Decode.given_text, hcredentials, hmemory, hchannels, Decode.getD_unless_nil,
    Decode.join_map_some, bind, Except.bind]

end Instance

namespace Run

theorem Spec.decode_encode (s : Spec) : decode s.encode = .ok s := by
  have howner : Decode.given Decode.string (some (.str s.owner)) = .ok (some s.owner) := rfl
  simp [decode, encode, Decode.decode_record, Decode.member?_record, Entries.get?_cons,
    Decode.given_text, howner, Decode.required, Decode.join_map_some, bind, Except.bind]

theorem Phase.decode_encode (p : Phase) : decode p.encode = .ok p := by
  cases p <;> rfl

theorem Status.decode_encode (s : Status) : decode s.encode = .ok s := by
  have hphase : Decode.given (Decode.optional Phase.decode) (s.phase.map Phase.encode) =
      .ok (s.phase.map some) :=
    Decode.given_optional_map _ _ nofun fun p _ => p.decode_encode
  simp [decode, encode, Decode.decode_record, Decode.member?_record, Entries.get?_cons,
    hphase, Decode.join_map_some, bind, Except.bind]

end Run

/-! ## Whole documents -/

/-- A document of a kind: metadata, a declaration, and a status if there is one. -/
def Json.document (kind : String) (metadata : Metadata) (declared : Json) (observed : Option Json) :
    Json :=
  .record [
    ("apiVersion", some (.str apiVersion)),
    ("kind", some (.str kind)),
    ("metadata", some metadata.encode),
    ("spec", some declared),
    ("status", observed)]

theorem Json.get?_status_document (kind : String) (metadata : Metadata) (declared : Json)
    (observed : Option Json) :
    (document kind metadata declared observed).get? "status" = observed := by
  rw [Json.get?, document, Decode.get?_record (by simp)]
  simp [Entries.get?_cons]

namespace Decode

variable {α σ τ : Type}

/-- Read a document with a declaration and a status of given types. -/
def document (p : Positional) (spec : Json → Result σ) (status : Json → Result τ)
    (make : Metadata → σ → Option τ → α) : Json → Result α :=
  p.decode
    (fun members => do
      let metadata ← member? "metadata" Metadata.decode members
      let declared ← member? "spec" spec members
      let observed ← member? "status" (optional status) members
      let metadata ← required "metadata" metadata
      .ok (make metadata (← required "spec" declared) observed.join))
    (fun items => do
      let metadata ← p.item 0 Metadata.decode none items
      let declared ← p.item 1 spec none items
      let observed ← p.item 2 (optional status) none items
      .ok (make metadata declared observed))

variable {p : Positional} {spec : Json → Result σ} {status : Json → Result τ}
  {make : Metadata → σ → Option τ → α}

theorem document_document {m : Metadata} {s : σ} {t : Option τ} {js : Json} {jt : Option Json}
    (hm : m.Dated) (hs : spec js = .ok s)
    (ht : given (optional status) jt = .ok (t.map some)) (kind : String) :
    document p spec status make (.document kind m js jt) = .ok (make m s t) := by
  have hmetadata : given Metadata.decode (some m.encode) = .ok (some m) := by
    rw [given, Metadata.decode_encode hm]
    rfl
  have hspec : given spec (some js) = .ok (some s) := by
    rw [given, hs]
    rfl
  simp [document, Json.document, decode_record, member?_record, Entries.get?_cons, hmetadata,
    hspec, ht, required, join_map_some, bind, Except.bind]

/-- The metadata of a document that was read has known dates. -/
theorem dated_of_document {j : Json} {a : α} (h : document p spec status make j = .ok a) :
    ∃ m s t, a = make m s t ∧ m.Dated := by
  unfold document Positional.decode at h
  split at h
  · obtain ⟨m, hm, h⟩ := of_bind_eq_ok h
    obtain ⟨_, -, h⟩ := of_bind_eq_ok h
    obtain ⟨_, -, h⟩ := of_bind_eq_ok h
    obtain ⟨m', hm', h⟩ := of_bind_eq_ok h
    obtain ⟨s, -, h⟩ := of_bind_eq_ok h
    cases h
    cases m with
    | none => cases hm'
    | some m =>
      cases hm'
      obtain ⟨j, hj⟩ := of_member?_eq_some hm
      exact ⟨_, _, _, rfl, Metadata.dated_of_decode hj⟩
  · obtain ⟨b, hb, hfinish⟩ := of_bind_eq_ok h
    obtain ⟨m, hm, hb⟩ := of_bind_eq_ok hb
    obtain ⟨_, -, hb⟩ := of_bind_eq_ok hb
    obtain ⟨_, -, hb⟩ := of_bind_eq_ok hb
    cases hb
    unfold Positional.finish at hfinish
    split at hfinish
    · cases hfinish
      unfold Positional.item at hm
      split at hm
      · exact ⟨_, _, _, rfl, Metadata.dated_of_decode hm⟩
      · next h => cases h
      · cases hm
    · cases hfinish
  · cases h

end Decode

theorem Instance.decode_eq_document :
    decode = Decode.document shape Spec.decode Status.decode Instance.mk := rfl

theorem Run.decode_eq_document :
    decode = Decode.document shape Spec.decode Status.decode Run.mk := rfl

theorem Instance.decode_encode {i : Instance} (h : i.metadata.Dated) : decode i.encode = .ok i := by
  have hstatus : Decode.given (Decode.optional Status.decode) (i.status.map Status.encode) =
      .ok (i.status.map some) :=
    Decode.given_optional_map _ _ nofun fun s _ => s.decode_encode
  rw [decode_eq_document]
  exact Decode.document_document h i.spec.decode_encode hstatus "Instance"

theorem Run.decode_encode {r : Run} (h : r.metadata.Dated) : decode r.encode = .ok r := by
  have hstatus : Decode.given (Decode.optional Status.decode) (r.status.map Status.encode) =
      .ok (r.status.map some) :=
    Decode.given_optional_map _ _ nofun fun s _ => s.decode_encode
  rw [decode_eq_document]
  exact Decode.document_document h r.spec.decode_encode hstatus "Run"

theorem Instance.dated_of_decode {j : Json} {i : Instance} (h : decode j = .ok i) :
    i.metadata.Dated := by
  rw [decode_eq_document] at h
  obtain ⟨m, s, t, rfl, hm⟩ := Decode.dated_of_document h
  exact hm

theorem Run.dated_of_decode {j : Json} {r : Run} (h : decode j = .ok r) : r.metadata.Dated := by
  rw [decode_eq_document] at h
  obtain ⟨m, s, t, rfl, hm⟩ := Decode.dated_of_document h
  exact hm

/-- Declarations, statuses and whole documents are read as they were written, and a document has a
status exactly if the object has one. -/
theorem documents_faithful :
    Decode.Faithful Instance.Spec.decode Instance.Spec.encode (fun _ => True) ∧
    Decode.Faithful Instance.Status.decode Instance.Status.encode (fun _ => True) ∧
    Decode.Faithful Channel.Declaration.decode Channel.Declaration.encode (fun _ => True) ∧
    Decode.Faithful Run.Spec.decode Run.Spec.encode (fun _ => True) ∧
    Decode.Faithful Run.Status.decode Run.Status.encode (fun _ => True) ∧
    Decode.Faithful Instance.decode Instance.encode (fun i => i.metadata.Dated) ∧
    Decode.Faithful Run.decode Run.encode (fun r => r.metadata.Dated) ∧
    (∀ i : Instance, i.encode.get? "status" = none ↔ i.status = none) ∧
    ∀ r : Run, r.encode.get? "status" = none ↔ r.status = none := by
  refine ⟨Decode.faithful_of_forall Instance.Spec.decode_encode,
    Decode.faithful_of_forall Instance.Status.decode_encode,
    Decode.faithful_of_forall Channel.Declaration.decode_encode,
    Decode.faithful_of_forall Run.Spec.decode_encode,
    Decode.faithful_of_forall Run.Status.decode_encode,
    Decode.faithful_of_readBack (fun _ => Instance.decode_encode)
      (fun _ _ => Instance.dated_of_decode),
    Decode.faithful_of_readBack (fun _ => Run.decode_encode) (fun _ _ => Run.dated_of_decode),
    fun i => ?_, fun r => ?_⟩
  · have hget : i.encode.get? "status" = i.status.map Instance.Status.encode :=
      Json.get?_status_document ..
    rw [hget, Option.map_eq_none_iff]
  · have hget : r.encode.get? "status" = r.status.map Run.Status.encode :=
      Json.get?_status_document ..
    rw [hget, Option.map_eq_none_iff]

/-- An Instance with empty parts, a date, and no status. -/
def Instance.sparse : Instance where
  metadata := {
    name := some "bot"
    labels := some .empty
    deletionTimestamp := some (.at ⟨12024, 2, 29, 23, 59, 60⟩ (by decide))
    finalizers := some [] }
  spec := { memory := some {}, credentials := some {}, policy := some "" }

theorem documents_faithful_sparse :
    Instance.decode Instance.sparse.encode = .ok Instance.sparse ∧
      Instance.sparse.encode.get? "status" = none ∧
      let inRow : Json := .arr [.arr [.arr [.str "slack", .null]], .obj [("other", .null)]]
      let named : Json := .obj [("channels", .arr [.obj [("type", .str "slack")]]),
        ("memory", .obj [("enabled", .bool false)])]
      Decode.restate Instance.Spec.decode Instance.Spec.encode inRow = .ok named ∧
        Decode.restate Instance.Spec.decode Instance.Spec.encode named = .ok named := by
  obtain ⟨hspec, -, -, -, -, hinstance, -, hstatus, -⟩ := documents_faithful
  have hdated : Instance.sparse.metadata.Dated := by
    constructor <;> simp [Instance.sparse, Moment.Known]
  refine ⟨hinstance.readBack _ hdated, (hstatus _).2 rfl, ?_⟩
  intro inRow named
  have hrestated : Decode.restate Instance.Spec.decode Instance.Spec.encode inRow = .ok named := rfl
  exact ⟨hrestated, hspec.settled inRow named hrestated⟩

end WorkloadOperator
