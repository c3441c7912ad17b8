import TemplateTree.Value
import TemplateTree.Yaml.Leveled

/-!
Entries of mappings, of sets and of ordered mappings. Keys are values that do not change: a sequence
counts as the tuple of its items, and other collections are no keys.
-/
namespace TemplateTree.Yaml

structure RawEntry where
  key : Leveled Value
  value : Leveled Value

def asKey? : Value → Option Value
  | .sequence items => some (.tuple items)
  | .mapping _ | .orderedMapping _ | .set _ | .recurrence _ _ => none
  | value => some value

mutual

def changeable? : Value → Option Text
  | .sequence _ => some CollectionShape.sequence.kind
  | .set _ => some CollectionShape.set.kind
  | .mapping _ => some CollectionShape.mapping.kind
  | .orderedMapping _ => some CollectionShape.orderedMapping.kind
  | .recurrence _ shape => some shape.kind
  | .tuple items => anyChangeable? items
  | _ => none

def anyChangeable? : List Value → Option Text
  | [] => none
  | item :: items => (changeable? item).or (anyChangeable? items)

end

def checkedEntries (level : Nat) (distinct : Bool) (known : List Value) :
    List RawEntry → Leveled (List (Value × Value))
  | [] => .ok []
  | entry :: entries =>
      match entry.key with
      | .error problem => .error problem
      | .ok key =>
          match asKey? key with
          | none => .error (level, .malformed)
          | some key =>
              let rest :=
                match changeable? key with
                | some kind => .error (level, .fault (.changeableKey kind))
                | none =>
                    if distinct && known.any key.isSameKey then .error (level, .malformed)
                    else checkedEntries level distinct (key :: known) entries
              (entry.value.both rest).map fun (value, rest) => (key, value) :: rest

def putEntry (entries : List (Value × Value)) (key value : Value) : List (Value × Value) :=
  if entries.any (·.1.isSameKey key) then
    entries.map fun entry => if entry.1.isSameKey key then (entry.1, value) else entry
  else entries ++ [(key, value)]

def lastEntries (entries : List (Value × Value)) : List (Value × Value) :=
  entries.foldl (fun known (key, value) => putEntry known key value) []

def mappingEntries (level : Nat) (merged own : List RawEntry) : Leveled (List (Value × Value)) :=
  if merged.isEmpty then checkedEntries level true [] own
  else (checkedEntries level false [] (merged ++ own)).map lastEntries

def setOf (entries : List (Value × Value)) : Value :=
  let keys := entries.map Prod.fst
  .set (if (Value.orderFault? keys).isSome then keys else keys.mergeSort Value.keyLe)

def orderedEntries (level : Nat) (known : List Value) :
    List (Option RawEntry) → Leveled (List (Value × Value))
  | [] => .ok []
  | none :: _ => .error (level, .malformed)
  | some entry :: entries =>
      match entry.key with
      | .error problem => .error problem
      | .ok key =>
          match changeable? key with
          | some kind => .error (level, .fault (.changeableKey kind))
          | none =>
              if known.any key.isSameKey then .error (level, .fault .repeatedKey)
              else
                (entry.value.both (orderedEntries level (key :: known) entries)).map
                  fun (value, rest) => (key, value) :: rest

def pairItems (level : Nat) : List (Option RawEntry) → Leveled (List Value)
  | [] => .ok []
  | none :: _ => .error (level, .malformed)
  | some entry :: entries =>
      ((entry.key.both entry.value).both (pairItems level entries)).map
        fun ((key, value), rest) => .tuple [key, value] :: rest

end TemplateTree.Yaml
