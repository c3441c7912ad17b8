import Mathlib.Algebra.GroupWithZero.Nat
import TemplateTree.Config.File

/-!
# Values of JSON documents

How the keys of their mappings are found and put in order, which of them can be written, and that their
parts are values of their own.
-/

namespace TemplateTree

namespace Value

inductive IsJson : Value → Prop
  | null : IsJson .null
  | boolean (value : Bool) : IsJson (.boolean value)
  | integer (value : Int) : IsJson (.integer value)
  | real (value : Binary) : IsJson (.real value)
  | text (value : Text) : IsJson (.text value)
  | sequence {items : List Value} (all : ∀ item ∈ items, IsJson item) : IsJson (.sequence items)
  | mapping {entries : List (Value × Value)} (named : ∀ entry ∈ entries, ∃ name, entry.1 = .text name)
      (values : ∀ entry ∈ entries, IsJson entry.2) : IsJson (.mapping entries)

theorem IsJson.named {entries : List (Value × Value)} (json : (Value.mapping entries).IsJson) :
    ∀ entry ∈ entries, ∃ name, entry.1 = .text name := by
  cases json with
  | mapping named _ => exact named

theorem IsJson.values {entries : List (Value × Value)} (json : (Value.mapping entries).IsJson) :
    ∀ entry ∈ entries, entry.2.IsJson := by
  cases json with
  | mapping _ values => exact values

def IsPair (value : Value) : Prop :=
  ∃ opener closer, value = .sequence [opener, closer] ∧ opener.toText ≠ [] ∧ closer.toText ≠ []

variable {value : Value} {entries : List (Value × Value)} {name : Text} {fault : ValueFault}

theorem isSameKey_text_iff : value.isSameKey (.text name) = true ↔ value = .text name := by
  cases value <;> simp [isSameKey]

theorem mem_of_lookup? (found : lookup? entries name = some value) : (.text name, value) ∈ entries := by
  obtain ⟨⟨key, value⟩, first, rfl⟩ := Option.map_eq_some_iff.mp found
  have same := List.find?_some first
  obtain rfl : key = .text name := isSameKey_text_iff.mp same
  exact List.mem_of_find?_eq_some first

/-! ## Values that are written -/

theorem isUnwritable_integer_iff (n : Int) :
    (integer n).isUnwritable = true ↔ 10 ^ ValueFault.digitLimit ≤ n.natAbs := by
  rw [isUnwritable, decide_eq_true_iff, ← Nat.not_le, Text.ofNat,
    Nat.length_toDigits_le_iff (by decide) (by decide), Nat.not_lt]

theorem writingFault?_eq_some {values : List Value} (fault? : writingFault? values = some fault) :
    fault = .integerUnwritable ∧ ∃ value ∈ values, value.isUnwritable = true := by
  unfold writingFault? at fault?
  split at fault?
  next unwritable => exact ⟨(Option.some.inj fault?).symm, List.any_eq_true.mp unwritable⟩
  · cases fault?

theorem writingFault?_eq_none {values : List Value} :
    writingFault? values = none ↔ ∀ value ∈ values, value.isUnwritable = false := by
  unfold writingFault?
  simp

theorem keyFault?_eq_none (named : ∀ entry ∈ entries, ∃ name, entry.1 = .text name) :
    Delimiters.keyFault? entries = none := by
  have texts : ∀ key ∈ Delimiters.otherKeys entries, ∃ name, key = .text name := by
    intro key member
    obtain ⟨entry, stored, rfl⟩ := List.mem_map.mp (List.mem_filter.mp member).1
    exact named entry stored
  have ordered (keys : List Value) (texts : ∀ key ∈ keys, ∃ name, key = .text name) :
      neighbourFault? keys = none := by
    induction keys with
    | nil => rfl
    | cons first keys ih =>
        obtain ⟨⟨name, rfl⟩, behind⟩ := List.forall_mem_cons.mp texts
        cases keys with
        | nil => rfl
        | cons second keys =>
            obtain ⟨⟨name', rfl⟩, -⟩ := List.forall_mem_cons.mp behind
            exact ih behind
  have numbers : (Delimiters.otherKeys entries).partition (fun key => key.quotient?.isSome) =
      ([], Delimiters.otherKeys entries) := by
    rw [List.partition_eq_filter_filter, List.filter_eq_nil_iff.mpr, List.filter_eq_self.mpr]
    · intro key member
      obtain ⟨name, rfl⟩ := texts key member
      rfl
    · intro key member
      obtain ⟨name, rfl⟩ := texts key member
      exact Bool.false_ne_true
  have unordered : orderFault? (Delimiters.otherKeys entries) = none := by
    rw [orderFault?, numbers]
    exact ordered _ texts
  have unwritable : writingFault? (Delimiters.otherKeys entries) = none := by
    refine writingFault?_eq_none.mpr fun key member => ?_
    obtain ⟨name, rfl⟩ := texts key member
    rfl
  rw [Delimiters.keyFault?, unordered, unwritable, Option.none_or]

/-! ## Parts

Nothing in a value of a JSON document comes again inside itself, so its parts are values of their own. -/

section Parts

variable {around : Value → Value} {shape : CollectionShape} {depth : Nat} {items before : List Value}

theorem itemsApart_eq (same : ∀ item ∈ items, item.apart around shape depth = item) :
    itemsApart around shape depth items = items := by
  induction items with
  | nil => rfl
  | cons item items ih =>
      obtain ⟨here, behind⟩ := List.forall_mem_cons.mp same
      rw [itemsApart, here, ih behind]

theorem entriesApart_eq (same : ∀ entry ∈ entries, entry.2.apart around shape depth = entry.2) :
    entriesApart around shape depth entries = entries := by
  induction entries with
  | nil => rfl
  | cons entry entries ih =>
      obtain ⟨here, behind⟩ := List.forall_mem_cons.mp same
      rw [entriesApart, entryApart, here, ih behind]

theorem IsJson.apart_eq (json : value.IsJson) : value.apart around shape depth = value := by
  induction json generalizing depth with
  | sequence _ ih => rw [apart, itemsApart_eq fun item member => ih item member]
  | mapping _ _ ih => rw [apart, entriesApart_eq fun entry member => ih entry member]
  | _ => rfl

theorem itemParts_eq (json : ∀ item ∈ items, item.IsJson) : itemParts before items = items := by
  induction items generalizing before with
  | nil => rfl
  | cons item items ih =>
      obtain ⟨here, behind⟩ := List.forall_mem_cons.mp json
      rw [itemParts, here.apart_eq, ih behind]

theorem entryParts_eq {make : List (Value × Value) → Value} {before : List (Value × Value)}
    (json : ∀ entry ∈ entries, entry.2.IsJson) : entryParts make before entries = entries := by
  induction entries generalizing before with
  | nil => rfl
  | cons entry entries ih =>
      obtain ⟨here, behind⟩ := List.forall_mem_cons.mp json
      rw [entryParts, here.apart_eq, ih behind]

theorem IsJson.inParts_eq (json : value.IsJson) : value.inParts = value := by
  cases json with
  | sequence all => rw [inParts, itemParts_eq all]
  | mapping _ values => rw [inParts, entryParts_eq values]
  | _ => rfl

theorem IsJson.mapEntries_eq {change : Value → Value → Value} (json : value.IsJson)
    (same : ∀ key value, value.IsJson → change key value = value) : value.mapEntries change = value := by
  cases json with
  | @mapping entries _ values =>
      have kept : entries.map (fun entry => (entry.1, change entry.1 entry.2)) = entries.map id :=
        List.map_congr_left fun entry member => Prod.ext rfl (same entry.1 entry.2 (values entry member))
      rw [mapEntries, kept, List.map_id]
  | _ => rfl

end Parts

end Value

end TemplateTree
