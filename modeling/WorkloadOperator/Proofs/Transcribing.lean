import WorkloadOperator.Proofs.Amending
import WorkloadOperator.Proofs.Dating
import WorkloadOperator.Run

/-!
# What is written is read back

Each member of an object has its own rule for when it is left out and for what is read in its
place.  `Decode.given` is what is read of a member that may be missing, and `member?_record` and
`nullable?_record` bring the reading of every member down to it.  With one lemma for each rule
(`given_optional_map`, `given_list`) the parts of an object are read back as they were written,
up to its metadata (`Metadata.decode_encode`).

The dates of metadata have to be known for that (`Metadata.Dated`), and those of metadata that
was read are (`Metadata.dated_of_decode`).
-/

namespace WorkloadOperator

/-! ## Dictionaries -/

theorem Entries.get?_foldl_insert {κ α : Type} [LT κ] [DecidableLT κ] [DecidableEq κ]
    [Std.Trichotomous (α := κ) (· < ·)] [Trans (α := κ) (· < ·) (· < ·) (· < ·)] (key : κ) :
    ∀ (pairs : List (κ × α)) (d : Dict κ α), (pairs.map Prod.fst).Nodup →
      (pairs.foldl (fun d p => d.insert p.1 p.2) d).get? key = (get? key pairs).or (d.get? key)
  | [], _, _ => rfl
  | (k, v) :: pairs, d, h => by
    obtain ⟨hk, hpairs⟩ := List.nodup_cons.1 h
    rw [List.foldl_cons, get?_foldl_insert key pairs _ hpairs, get?_cons, Dict.get?_insert]
    by_cases hkey : k = key
    · subst hkey
      rw [if_pos rfl, if_pos rfl, get?_eq_none_iff.2 hk]
      rfl
    · rw [if_neg hkey, if_neg hkey]

theorem Entries.Ascending.nodup {α : Type} {entries : List (String × α)} (h : Ascending entries) :
    (entries.map Prod.fst).Nodup := by
  refine List.pairwise_map.2 (List.Pairwise.imp ?_ h)
  intro a b hab heq
  rw [heq] at hab
  exact String.lt_irrefl _ hab

theorem Dict.ofList_entries {α : Type} (d : Dict String α) : ofList d.entries = d := by
  refine Dict.ext_get? fun key => ?_
  rw [ofList, Entries.get?_foldl_insert key _ _ d.ascending.nodup, get?_empty, Option.or_none]
  rfl

namespace Decode

variable {α : Type} {decode : Json → Result α} {encode : α → Json}

/-! ## Members of a record -/

theorem get?_record {key : String} :
    ∀ {fields : List (String × Option Json)}, (fields.map Prod.fst).Nodup →
      Entries.get? key (Json.record fields).members = (Entries.get? key fields).join
  | [], _ => rfl
  | (k, v) :: fields, h => by
    obtain ⟨hk, hfields⟩ := List.nodup_cons.1 h
    have ih : Entries.get? key (Json.record fields).members = (Entries.get? key fields).join :=
      get?_record hfields
    simp only [Json.record, Json.members] at ih ⊢
    cases v with
    | none =>
      rw [List.filterMap_cons_none rfl, ih, Entries.get?_cons]
      split
      · next hkey =>
        rw [← hkey, Entries.get?_eq_none_iff.2 hk]
        rfl
      · rfl
    | some j =>
      have hcons : (((k, some j) :: fields).filterMap fun m => m.2.map (m.1, ·)) =
          (k, j) :: fields.filterMap fun m => m.2.map (m.1, ·) := rfl
      rw [hcons, Entries.get?_cons, Entries.get?_cons, ih]
      split <;> rfl

/-- What is read of a value that may be missing. -/
def given (decode : Json → Result α) : Option Json → Result (Option α)
  | none => .ok none
  | some j => (decode j).map some

theorem member?_record {key : String} {fields : List (String × Option Json)}
    (h : (fields.map Prod.fst).Nodup) :
    member? key decode (Json.record fields).members =
      given decode (Entries.get? key fields).join := by
  rw [member?, get?_record h]
  cases (Entries.get? key fields).join <;> rfl

theorem nullable?_record {key : String} {fields : List (String × Option Json)}
    (h : (fields.map Prod.fst).Nodup) :
    nullable? key decode (Json.record fields).members =
      (given (optional decode) (Entries.get? key fields).join).map Option.join := by
  rw [nullable?, member?_record h]

theorem decode_record (p : Positional) (ofMembers : List (String × Json) → Result α)
    (ofItems : List Json → Result α) (fields : List (String × Option Json)) :
    p.decode ofMembers ofItems (.record fields) = ofMembers (Json.record fields).members := rfl

theorem resource_record (name : String) (ofMembers : List (String × Json) → Result α)
    (fields : List (String × Option Json)) :
    resource name ofMembers (.record fields) = ofMembers (Json.record fields).members := rfl

theorem optional_of_ne_null {j : Json} (h : j ≠ .null) :
    optional decode j = (decode j).map some := by
  unfold optional
  split
  · exact absurd rfl h
  · rfl

/-- A value that is written if it is there is read as what it was. -/
theorem given_optional_map (decode : Json → Result α) (encode : α → Json)
    (hnull : ∀ a, encode a ≠ .null) {o : Option α} (h : ∀ a ∈ o, decode (encode a) = .ok a) :
    given (optional decode) (o.map encode) = .ok (o.map some) := by
  cases o with
  | none => rfl
  | some a =>
    rw [Option.map_some, given, optional_of_ne_null (hnull a), h a rfl]
    rfl

/-- An empty sequence is not written, and read as none at all. -/
theorem given_list (h : ∀ a, decode (encode a) = .ok a) (as : List α) :
    given (list decode) (if as = [] then none else some (.arr (as.map encode))) =
      .ok (if as = [] then none else some as) := by
  split
  · rfl
  · rw [given, list_map h]
    rfl

theorem join_map_some {β : Type} (o : Option β) : (o.map some).join = o := by
  cases o <;> rfl

theorem string_str (s : String) : string (.str s) = .ok s := rfl

theorem list_strs (texts : List String) : list string (.strs texts) = .ok texts :=
  list_map string_str texts

theorem dict_ofDict (d : Dict String String) : dict (.ofDict d) = .ok d := by
  have hpairs : ((d.entries.map fun e => (e.1, Json.str e.2)).mapM fun m =>
      (string m.2).map fun s => (m.1, s)) = .ok d.entries := by
    induction d.entries with
    | nil => rfl
    | cons e entries ih =>
      rw [List.map_cons, List.mapM_cons, ih]
      rfl
  rw [Json.ofDict, dict, hpairs]
  exact congrArg Except.ok d.ofList_entries

theorem given_text (o : Option String) :
    given (optional string) (o.map .str) = .ok (o.map some) :=
  given_optional_map string .str nofun fun s _ => string_str s

theorem given_truth (o : Option Bool) :
    given (optional boolean) (o.map .bool) = .ok (o.map some) :=
  given_optional_map boolean .bool nofun fun _ _ => rfl

/-! ## What was read -/

theorem of_bind_eq_ok {β : Type} {x : Result α} {f : α → Result β} {b : β}
    (h : (x >>= f) = .ok b) : ∃ a, x = .ok a ∧ f a = .ok b := by
  cases x with
  | error e => cases h
  | ok a => exact ⟨a, rfl, h⟩

theorem of_map_eq_ok {β : Type} {x : Result α} {f : α → β} {b : β} (h : x.map f = .ok b) :
    ∃ a, x = .ok a ∧ f a = b := by
  cases x with
  | error e => cases h
  | ok a => exact ⟨a, rfl, Except.ok.inj h⟩

theorem of_resource_eq_ok {name : String} {ofMembers : List (String × Json) → Result α} {j : Json}
    {a : α} (h : resource name ofMembers j = .ok a) : ∃ members, ofMembers members = .ok a := by
  unfold resource at h
  split at h
  · exact ⟨_, h⟩
  · cases h

theorem of_member?_eq_some {key : String} {members : List (String × Json)} {a : α}
    (h : member? key decode members = .ok (some a)) : ∃ j, decode j = .ok a := by
  unfold member? at h
  split at h
  · cases h
  · obtain ⟨b, hb, hsome⟩ := of_map_eq_ok h
    cases hsome
    exact ⟨_, hb⟩

theorem of_nullable?_eq_some {key : String} {members : List (String × Json)} {a : α}
    (h : nullable? key decode members = .ok (some a)) : ∃ j, decode j = .ok a := by
  obtain ⟨o, ho, hjoin⟩ := of_map_eq_ok h
  obtain ⟨o, rfl, rfl⟩ : ∃ o', o = some o' ∧ o' = some a := by
    cases o with
    | none => cases hjoin
    | some o' => exact ⟨o', rfl, hjoin⟩
  obtain ⟨j, hj⟩ := of_member?_eq_some ho
  unfold optional at hj
  split at hj
  · cases hj
  · obtain ⟨b, hb, hsome⟩ := of_map_eq_ok hj
    cases hsome
    exact ⟨_, hb⟩

end Decode

/-! ## Metadata -/

theorem OwnerReference.decode_encode (o : OwnerReference) : decode o.encode = .ok o := by
  have htext : ∀ s, Decode.given (Decode.optional Decode.string) (some (.str s)) =
      .ok (some (some s)) := fun s => Decode.given_text (some s)
  simp [decode, encode, Decode.resource_record, Decode.nullable?_record, Entries.get?_cons,
    htext, Decode.given_truth, Decode.join_map_some, bind, Except.bind, Except.map]

namespace Metadata

/-- The dates of an object are known: none was read from the clock, which does not keep to whole
seconds. -/
structure Dated (m : Metadata) : Prop where
  creation : ∀ t ∈ m.creationTimestamp, t.Known
  deletion : ∀ t ∈ m.deletionTimestamp, t.Known

theorem decode_encode {m : Metadata} (h : m.Dated) : decode m.encode = .ok m := by
  have htexts : ∀ o : Option (List String),
      Decode.given (Decode.optional (Decode.list Decode.string)) (o.map .strs) =
        .ok (o.map some) :=
    fun o => Decode.given_optional_map _ _ (by simp [Json.strs])
      fun texts _ => Decode.list_strs texts
  have hdict : ∀ o : Option Labels,
      Decode.given (Decode.optional Decode.dict) (o.map .ofDict) = .ok (o.map some) :=
    fun o => Decode.given_optional_map _ _ (by simp [Json.ofDict]) fun d _ => Decode.dict_ofDict d
  have hmoment : ∀ o : Option Moment, (∀ t ∈ o, t.Known) →
      Decode.given (Decode.optional Moment.decode) (o.map Moment.encode) = .ok (o.map some) :=
    fun o ho => Decode.given_optional_map _ _ (fun _ => by simp [Moment.encode])
      fun t ht => Moment.decode_encode (ho t ht)
  have hgeneration : Decode.given (Decode.optional Decode.int64)
      (m.generation.map fun g => .int g.toInt) = .ok (m.generation.map some) :=
    Decode.given_optional_map _ _ (by simp) fun n _ => Decode.int64_toInt n
  have howners : Decode.given (Decode.optional (Decode.list OwnerReference.decode))
      (m.ownerReferences.map fun os => .arr (os.map OwnerReference.encode)) =
        .ok (m.ownerReferences.map some) :=
    Decode.given_optional_map _ _ (by simp)
      fun os _ => Decode.list_map OwnerReference.decode_encode os
  simp [decode, encode, Decode.resource_record, Decode.nullable?_record, Entries.get?_cons,
    Decode.given_text, htexts, hdict, hmoment _ h.creation, hmoment _ h.deletion, hgeneration,
    howners, Decode.join_map_some, bind, Except.bind, Except.map]

theorem dated_of_decode {j : Json} {m : Metadata} (h : decode j = .ok m) : m.Dated := by
  obtain ⟨members, h⟩ := Decode.of_resource_eq_ok h
  obtain ⟨_, -, h⟩ := Decode.of_bind_eq_ok h
  obtain ⟨creation, hcreation, h⟩ := Decode.of_bind_eq_ok h
  obtain ⟨deletion, hdeletion, h⟩ := Decode.of_bind_eq_ok h
  -- The other nine members are no dates.
  iterate 9 obtain ⟨_, -, h⟩ := Decode.of_bind_eq_ok h
  cases h
  constructor
  · rintro t rfl
    obtain ⟨j, hj⟩ := Decode.of_nullable?_eq_some hcreation
    exact Moment.known_of_decode hj
  · rintro t rfl
    obtain ⟨j, hj⟩ := Decode.of_nullable?_eq_some hdeletion
    exact Moment.known_of_decode hj

end Metadata

end WorkloadOperator
