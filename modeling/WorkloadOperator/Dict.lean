/-!
# Dictionaries in key order

Object fields, label sets and the tables of the store are finite maps whose
order of entries can be seen: fields are written, and objects are listed, in
ascending order of their keys.  So a dictionary is the list of its entries in
that order.

`Entries` has the operations on plain lists of pairs, which a recursive value
type can hold.  `Dict` adds the proof that the keys ascend.  Reading is
described by `get?_insert` and `get?_erase`, and `Dict.ext_get?` says that a
dictionary is no more than what can be read from it.
-/

namespace WorkloadOperator

namespace Entries

variable {κ α : Type}

/-- Every key is below all keys that follow it. -/
def Ascending [LT κ] (entries : List (κ × α)) : Prop :=
  entries.Pairwise (fun a b => a.1 < b.1)

instance [LT κ] [DecidableLT κ] (entries : List (κ × α)) : Decidable (Ascending entries) :=
  inferInstanceAs (Decidable (entries.Pairwise _))

/-- The value filed under a key. -/
def get? [DecidableEq κ] (key : κ) : List (κ × α) → Option α
  | [] => none
  | (k, v) :: rest => if k = key then some v else get? key rest

/-- File a value under a key, in place of the one that was there. -/
def insert [LT κ] [DecidableLT κ] [DecidableEq κ] (key : κ) (value : α) :
    List (κ × α) → List (κ × α)
  | [] => [(key, value)]
  | (k, v) :: rest =>
    if k = key then (key, value) :: rest
    else if key < k then (key, value) :: (k, v) :: rest
    else (k, v) :: insert key value rest

/-- Drop the entry under a key. -/
def erase [DecidableEq κ] (key : κ) (entries : List (κ × α)) : List (κ × α) :=
  entries.filter (fun e => e.1 ≠ key)

/-! ## Reading -/

@[simp] theorem get?_nil [DecidableEq κ] (key : κ) : get? key ([] : List (κ × α)) = none := rfl

theorem get?_cons [DecidableEq κ] (key k : κ) (v : α) (rest : List (κ × α)) :
    get? key ((k, v) :: rest) = if k = key then some v else get? key rest := rfl

/-- What is read after an insertion. -/
theorem get?_insert [LT κ] [DecidableLT κ] [DecidableEq κ] (key key' : κ) (value : α)
    (entries : List (κ × α)) :
    get? key' (insert key value entries) =
      if key = key' then some value else get? key' entries := by
  induction entries with
  | nil => rfl
  | cons e rest ih =>
    obtain ⟨k, v⟩ := e
    unfold insert
    split
    · next h => subst h; simp only [get?_cons]; split <;> rfl
    · next h =>
      split
      · simp only [get?_cons]
      · simp only [get?_cons, ih]
        by_cases hk : k = key'
        · subst hk; rw [if_pos rfl, if_neg (fun e => h e.symm), if_pos rfl]
        · rw [if_neg hk, if_neg hk]

/-- What is read after an erasure. -/
theorem get?_erase [DecidableEq κ] (key key' : κ) (entries : List (κ × α)) :
    get? key' (erase key entries) = if key = key' then none else get? key' entries := by
  induction entries with
  | nil => simp [erase]
  | cons e rest ih =>
    obtain ⟨k, v⟩ := e
    unfold erase at ih ⊢
    by_cases h : k = key
    · subst h
      simp only [ne_eq, List.filter_cons, not_true_eq_false, decide_false, Bool.false_eq_true,
        ↓reduceIte, ih, get?_cons]
      split <;> rfl
    · simp only [ne_eq, List.filter_cons, h, not_false_eq_true, decide_true, ↓reduceIte,
        get?_cons, ih]
      by_cases hk : k = key'
      · subst hk; rw [if_pos rfl, if_neg (fun e => h e.symm), if_pos rfl]
      · rw [if_neg hk, if_neg hk]

theorem mem_of_get? [DecidableEq κ] {key : κ} {value : α} : ∀ {entries : List (κ × α)},
    get? key entries = some value → (key, value) ∈ entries
  | [], h => by simp at h
  | (k, v) :: rest, h => by
    rw [get?_cons] at h
    split at h
    · next hk => subst hk; cases h; exact List.mem_cons_self
    · exact List.mem_cons_of_mem _ (mem_of_get? h)

theorem get?_eq_none_iff [DecidableEq κ] {key : κ} {entries : List (κ × α)} :
    get? key entries = none ↔ key ∉ entries.map Prod.fst := by
  induction entries with
  | nil => simp
  | cons e rest ih =>
    obtain ⟨k, v⟩ := e
    rw [get?_cons, List.map_cons, List.mem_cons]
    by_cases hkey : k = key
    · simp [hkey]
    · simp [hkey, ih, eq_comm (a := key)]

/-! ## The order of the keys -/

theorem mem_insert [LT κ] [DecidableLT κ] [DecidableEq κ] {key : κ} {value : α} {e : κ × α} :
    ∀ {entries : List (κ × α)}, e ∈ insert key value entries → e = (key, value) ∨ e ∈ entries
  | [], h => by simpa [insert] using h
  | (k, v) :: rest, h => by
    unfold insert at h
    split at h
    · rcases List.mem_cons.1 h with h | h
      · exact .inl h
      · exact .inr (List.mem_cons_of_mem _ h)
    · split at h
      · rcases List.mem_cons.1 h with h | h
        · exact .inl h
        · exact .inr h
      · rcases List.mem_cons.1 h with h | h
        · exact .inr (h ▸ List.mem_cons_self)
        · rcases mem_insert h with h | h
          · exact .inl h
          · exact .inr (List.mem_cons_of_mem _ h)

theorem Ascending.insert [LT κ] [DecidableLT κ] [DecidableEq κ]
    [Std.Trichotomous (α := κ) (· < ·)] [Trans (α := κ) (· < ·) (· < ·) (· < ·)]
    (key : κ) (value : α) : ∀ {entries : List (κ × α)}, Ascending entries →
      Ascending (insert key value entries)
  | [], _ => List.pairwise_singleton _ _
  | (k, v) :: rest, h => by
    obtain ⟨hk, hr⟩ := List.pairwise_cons.1 h
    unfold Entries.insert
    split
    · next he => subst he; exact List.pairwise_cons.2 ⟨hk, hr⟩
    · next he =>
      split
      · next hlt =>
        refine List.pairwise_cons.2 ⟨fun e he' => ?_, h⟩
        rcases List.mem_cons.1 he' with rfl | he'
        · exact hlt
        · exact Trans.trans hlt (hk e he')
      · next hlt =>
        refine List.pairwise_cons.2 ⟨fun e he' => ?_, Ascending.insert key value hr⟩
        rcases mem_insert he' with rfl | he'
        · rcases Std.Trichotomous.rel_or_eq_or_rel_swap (r := (· < ·)) (a := k) (b := key)
            with h | h | h
          · exact h
          · exact absurd h he
          · exact absurd h hlt
        · exact hk e he'

theorem Ascending.erase [LT κ] [DecidableEq κ] (key : κ) {entries : List (κ × α)}
    (h : Ascending entries) :
    Ascending (Entries.erase key entries) :=
  List.Pairwise.filter _ h

/-- In ascending entries a pair is there exactly if its value is read. -/
theorem mem_iff_get? [LT κ] [DecidableEq κ] [Std.Irrefl (α := κ) (· < ·)] {key : κ} {value : α} :
    ∀ {entries : List (κ × α)}, Ascending entries →
      ((key, value) ∈ entries ↔ get? key entries = some value)
  | [], _ => by simp
  | (k, v) :: rest, h => by
    obtain ⟨hk, hr⟩ := List.pairwise_cons.1 h
    rw [get?_cons, List.mem_cons]
    constructor
    · rintro (h | h)
      · cases h; simp
      · have : k ≠ key := fun e => by
          subst e; exact Std.Irrefl.irrefl (r := (· < ·)) k (hk _ h)
        rw [if_neg this]
        exact (mem_iff_get? hr).1 h
    · intro h
      split at h
      · next e => subst e; cases h; exact .inl rfl
      · exact .inr (mem_of_get? h)

/-- What is read of entries that were selected, and whose values were changed. -/
theorem get?_filter_map [LT κ] [DecidableEq κ] [Std.Irrefl (α := κ) (· < ·)] {β : Type}
    (p : κ × α → Bool) (g : α → β) (key : κ) : ∀ {entries : List (κ × α)}, Ascending entries →
      get? key ((entries.filter p).map fun e => (e.1, g e.2)) =
        ((get? key entries).filter fun v => p (key, v)).map g
  | [], _ => rfl
  | (k, v) :: rest, h => by
    obtain ⟨hk, hr⟩ := List.pairwise_cons.1 h
    have ih := get?_filter_map p g key hr
    rw [get?_cons]
    by_cases hkey : k = key
    · subst hkey
      rw [if_pos rfl, Option.filter_some]
      by_cases hp : p (k, v) = true
      · rw [List.filter_cons_of_pos hp, if_pos hp, List.map_cons, get?_cons, if_pos rfl]
        rfl
      · rw [List.filter_cons_of_neg hp, if_neg hp, ih]
        cases hrest : get? k rest with
        | none => rfl
        | some u => exact absurd (hk _ (mem_of_get? hrest)) (Std.Irrefl.irrefl (r := (· < ·)) k)
    · rw [if_neg hkey, ← ih]
      by_cases hp : p (k, v) = true
      · rw [List.filter_cons_of_pos hp, List.map_cons, get?_cons, if_neg hkey]
      · rw [List.filter_cons_of_neg hp]

/-- Ascending entries are determined by what is read from them. -/
theorem eq_of_get?_eq [LT κ] [DecidableEq κ] [Std.Irrefl (α := κ) (· < ·)]
    [Std.Asymm (α := κ) (· < ·)] : ∀ {a b : List (κ × α)}, Ascending a → Ascending b →
      (∀ key, get? key a = get? key b) → a = b
  | [], [], _, _, _ => rfl
  | [], (k, v) :: _, _, _, h => by simpa [get?_cons] using h k
  | (k, v) :: _, [], _, _, h => by simpa [get?_cons] using (h k).symm
  | (k, v) :: a, (l, w) :: b, ha, hb, h => by
    obtain ⟨hk, ha'⟩ := List.pairwise_cons.1 ha
    obtain ⟨hl, hb'⟩ := List.pairwise_cons.1 hb
    have hkl : k = l := by
      have hmem : (k, v) ∈ (l, w) :: b := (mem_iff_get? hb).2 (by rw [← h, get?_cons, if_pos rfl])
      have hmem' : (l, w) ∈ (k, v) :: a := (mem_iff_get? ha).2 (by rw [h, get?_cons, if_pos rfl])
      rcases List.mem_cons.1 hmem with e | hmem
      · exact congrArg Prod.fst e
      · rcases List.mem_cons.1 hmem' with e | hmem'
        · exact (congrArg Prod.fst e).symm
        · exact absurd (hk _ hmem') (Std.Asymm.asymm _ _ (hl _ hmem))
    subst hkl
    have hv : v = w := by simpa [get?_cons] using h k
    subst hv
    have absent : ∀ {c : List (κ × α)}, (∀ e ∈ c, k < e.1) → get? k c = none := by
      intro c hc
      cases hg : get? k c with
      | none => rfl
      | some u => exact absurd (hc _ (mem_of_get? hg)) (Std.Irrefl.irrefl (r := (· < ·)) k)
    have hrest : a = b := eq_of_get?_eq ha' hb' fun key => by
      by_cases e : k = key
      · subst e; rw [absent hk, absent hl]
      · simpa [get?_cons, e] using h key
    rw [hrest]

end Entries

/-! ## Texts as keys

The two facts about the order of texts that an insertion asks for, found first whatever
other orders are in scope. -/

instance (priority := 2000) trichotomousTexts : Std.Trichotomous (α := String) (· < ·) :=
  inferInstance

instance (priority := 2000) transTexts : Trans (α := String) (· < ·) (· < ·) (· < ·) :=
  ⟨String.lt_trans⟩

/-- A finite map, kept as the list of its entries in ascending order of keys. -/
structure Dict (κ : Type) (α : Type) [LT κ] where
  /-- The entries in order. -/
  entries : List (κ × α)
  /-- Their keys ascend, so no key occurs twice. -/
  ascending : Entries.Ascending entries

namespace Dict

variable {κ α : Type} [LT κ]

instance [DecidableEq κ] [DecidableEq α] : DecidableEq (Dict κ α) := fun a b =>
  decidable_of_iff (a.entries = b.entries) ⟨fun h => by cases a; cases b; cases h; rfl, congrArg _⟩

/-- The dictionary without entries. -/
def empty : Dict κ α := ⟨[], List.Pairwise.nil⟩

instance : Inhabited (Dict κ α) := ⟨empty⟩

/-- The keys in order. -/
def keys (d : Dict κ α) : List κ := d.entries.map Prod.fst

/-- The values in order of their keys. -/
def values (d : Dict κ α) : List α := d.entries.map Prod.snd

/-- The value filed under a key. -/
def get? [DecidableEq κ] (d : Dict κ α) (key : κ) : Option α := Entries.get? key d.entries

/-- Drop the entry under a key. -/
def erase [DecidableEq κ] (d : Dict κ α) (key : κ) : Dict κ α :=
  ⟨Entries.erase key d.entries, d.ascending.erase key⟩

section Insert

variable [DecidableLT κ] [DecidableEq κ] [Std.Trichotomous (α := κ) (· < ·)]
  [Trans (α := κ) (· < ·) (· < ·) (· < ·)]

/-- File a value under a key, in place of the one that was there. -/
def insert (d : Dict κ α) (key : κ) (value : α) : Dict κ α :=
  ⟨Entries.insert key value d.entries, d.ascending.insert key value⟩

/-- File the pairs of a list one after the other, so that of two values for a
key the later stays. -/
def ofList (pairs : List (κ × α)) : Dict κ α :=
  pairs.foldl (fun d p => d.insert p.1 p.2) empty

theorem get?_insert (d : Dict κ α) (key key' : κ) (value : α) :
    (d.insert key value).get? key' = if key = key' then some value else d.get? key' :=
  Entries.get?_insert key key' value d.entries

end Insert

@[simp] theorem get?_empty [DecidableEq κ] (key : κ) : (empty : Dict κ α).get? key = none := rfl

theorem get?_erase [DecidableEq κ] (d : Dict κ α) (key key' : κ) :
    (d.erase key).get? key' = if key = key' then none else d.get? key' :=
  Entries.get?_erase key key' d.entries

theorem mem_entries_iff [DecidableEq κ] [Std.Irrefl (α := κ) (· < ·)]
    {d : Dict κ α} {key : κ} {value : α} :
    (key, value) ∈ d.entries ↔ d.get? key = some value :=
  Entries.mem_iff_get? d.ascending

/-- Two dictionaries with the same readings are one. -/
theorem ext_get? [DecidableEq κ] [Std.Irrefl (α := κ) (· < ·)] [Std.Asymm (α := κ) (· < ·)]
    {c d : Dict κ α} (h : ∀ key, c.get? key = d.get? key) : c = d := by
  obtain ⟨a, ha⟩ := c
  obtain ⟨b, hb⟩ := d
  cases Entries.eq_of_get?_eq ha hb h
  rfl

end Dict

end WorkloadOperator
