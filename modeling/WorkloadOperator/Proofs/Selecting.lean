import Mathlib.Data.List.DropRight
import WorkloadOperator.Manifest
import WorkloadOperator.Proofs.Tables

/-!
# Selectors find what they name

A selector is written as a text and read again by the store.  Nothing is lost on
the way if keys and values are plain: a plain text has no comma and neither
starts nor ends with a blank.  So the selector of an Instance with a plain name
admits exactly the objects that carry its labels.
-/

namespace WorkloadOperator

/-- Trimming keeps a text with no blank character at either end. -/
theorem trimBlank_eq_self {cs : List Char} (first : ∀ c ∈ cs.head?, isBlank c = false)
    (last : ∀ c ∈ cs.getLast?, isBlank c = false) : trimBlank cs = cs := by
  have hfirst : cs.dropWhile isBlank = cs := by
    refine List.dropWhile_eq_self_iff.2 fun hlength => ?_
    have hhead : cs.head? = some cs[0] := by
      rw [List.head?_eq_getElem?, List.getElem?_eq_getElem hlength]
    simp [first _ hhead]
  have hlast : cs.rdropWhile isBlank = cs := by
    refine List.rdropWhile_eq_self_iff.2 fun hne => ?_
    simp [last _ (List.getLast?_eq_some_getLast hne)]
  rw [trimBlank, hfirst]
  exact hlast

namespace Selector

/-! ## Reading -/

theorem splitAt_of_not_mem {separator : Char} {cs : List Char} (h : separator ∉ cs) :
    splitAt separator cs = [cs] := by
  induction cs with
  | nil => rfl
  | cons c cs ih =>
    simp only [List.mem_cons, not_or] at h
    rw [splitAt, if_neg (Ne.symm h.1), ih h.2]

theorem splitAt_append {separator : Char} {cs : List Char} (h : separator ∉ cs)
    (rest : List Char) : splitAt separator (cs ++ separator :: rest) =
      cs :: splitAt separator rest := by
  induction cs with
  | nil => rw [List.nil_append, splitAt, if_pos rfl]
  | cons c cs ih =>
    simp only [List.mem_cons, not_or] at h
    rw [List.cons_append, splitAt, if_neg (Ne.symm h.1), ih h.2]

/-- A part states what stands on both sides of its first equals sign. -/
theorem requirement?_append {key : List Char} (h : '=' ∉ key) (value : List Char) :
    requirement? (key ++ '=' :: value) =
      some (String.ofList (trimBlank key), String.ofList (trimBlank value)) := by
  have hkey : ∀ c ∈ key, decide (c ≠ '=') = true := by
    intro c hc
    exact decide_eq_true fun e => h (e ▸ hc)
  have htake : (key ++ '=' :: value).takeWhile (fun c => decide (c ≠ '=')) = key := by
    rw [List.takeWhile_append_of_pos hkey]
    simp
  have hdrop : (key ++ '=' :: value).dropWhile (fun c => decide (c ≠ '=')) = '=' :: value := by
    rw [List.dropWhile_append_of_pos hkey]
    simp
  unfold requirement?
  rw [htake, hdrop]

/-- A text that a selector can hold: it has no comma, and neither its first nor its
last character is blank. -/
structure Plain (text : String) : Prop where
  noComma : ',' ∉ text.toList
  first : ∀ c ∈ text.toList.head?, isBlank c = false
  last : ∀ c ∈ text.toList.getLast?, isBlank c = false

instance (text : String) : Decidable (Plain text) :=
  have _ (o : Option Char) : Decidable (∀ c ∈ o, isBlank c = false) :=
    Option.decidableForallMem o
  decidable_of_iff (',' ∉ text.toList ∧ (∀ c ∈ text.toList.head?, isBlank c = false) ∧
      ∀ c ∈ text.toList.getLast?, isBlank c = false)
    ⟨fun h => ⟨h.1, h.2.1, h.2.2⟩, fun h => ⟨h.noComma, h.first, h.last⟩⟩

theorem Plain.trim_eq {text : String} (h : Plain text) :
    String.ofList (trimBlank text.toList) = text := by
  rw [trimBlank_eq_self h.first h.last, String.ofList_toList]

/-- Two selectors in one are read one after the other. -/
theorem read_both {a b : String} (h : ',' ∉ a.toList) : read (both a b) = read a ++ read b := by
  have hab : (both a b).toList = a.toList ++ ',' :: b.toList := by
    simp [both]
  rw [read, hab, splitAt_append h, read, splitAt_of_not_mem h, read, ← List.filterMap_append]
  rfl

/-- A requirement is read as it was written. -/
theorem read_equals {key value : String} (hkey : Plain key) (hsign : '=' ∉ key.toList)
    (hvalue : Plain value) : read (equals key value) = [(key, value)] := by
  have htext : (equals key value).toList = key.toList ++ '=' :: value.toList := by
    simp [equals]
  have hcomma : ',' ∉ (equals key value).toList := by
    rw [htext]
    simp only [List.mem_append, List.mem_cons, not_or]
    exact ⟨hkey.noComma, by decide, hvalue.noComma⟩
  rw [read, splitAt_of_not_mem hcomma, htext, List.filterMap_cons_some (requirement?_append hsign _),
    hkey.trim_eq, hvalue.trim_eq]
  rfl

end Selector

namespace Naming

open Selector

/-- Whether an object is labelled as what serves a channel of an Instance. -/
def Serves (owner : String) (m : Metadata) : Prop :=
  m.label? componentKey = some channelComponent ∧ m.label? instanceKey = some owner

instance (owner : String) (m : Metadata) : Decidable (Serves owner m) :=
  inferInstanceAs (Decidable (_ ∧ _))

theorem read_componentSelector {owner component : String} (ho : Plain owner)
    (hc : Plain component) :
    read (componentSelector owner component) = [(componentKey, component), (instanceKey, owner)] := by
  have hkey : Plain componentKey := by decide
  have hcomma : ',' ∉ (equals componentKey component).toList := by
    simp only [equals, String.toList_append, List.mem_append, not_or]
    exact ⟨⟨hkey.noComma, by decide⟩, hc.noComma⟩
  rw [componentSelector, read_both hcomma, read_equals hkey (by decide) hc,
    read_equals (by decide) (by decide) ho]
  rfl

/-- The selector of an Instance admits exactly what serves its channels. -/
theorem admits_componentSelector {owner : String} (h : Plain owner) (m : Metadata) :
    admits (read (componentSelector owner channelComponent)) m = true ↔ Serves owner m := by
  rw [read_componentSelector h (by decide)]
  simp [admits, Serves]

/-- The selector of everything that names an Instance admits exactly that. -/
theorem admits_instanceSelector {owner : String} (h : Plain owner) (m : Metadata) :
    admits (read (instanceSelector owner)) m = true ↔ m.label? instanceKey = some owner := by
  rw [instanceSelector, read_equals (by decide) (by decide) h]
  simp [admits]

theorem label?_channelLabels (o : Owner) (name : String) (c : Channel) :
    (o.child name (channelLabels o.name c)).label? instanceKey = some o.name := by
  simp [Owner.child, Metadata.label?, channelLabels, Dict.ofList, Dict.get?_insert]

end Naming

end WorkloadOperator
