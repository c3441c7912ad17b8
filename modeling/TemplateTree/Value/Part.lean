import TemplateTree.Value

/-!
Parts of values that hold themselves. A part that is looked at on its own is a value of its own:
where the whole comes again inside it, the whole stands there, and what recurs is the part.
-/
namespace TemplateTree.Value

def shape : Value → CollectionShape
  | sequence _ => .sequence
  | set _ => .set
  | orderedMapping _ => .orderedMapping
  | recurrence _ shape => shape
  | _ => .mapping

mutual

/-- What stands inside a part below `depth` of its collections, when the part is a value of its own.
`around` gives the whole with a value in the place of the part, and `shape` is the kind of the
part. -/
def apart (around : Value → Value) (shape : CollectionShape) (depth : Nat) : Value → Value
  | recurrence up other =>
      if up = depth then around (recurrence depth shape) else recurrence up other
  | sequence items => sequence (itemsApart around shape (depth + 1) items)
  | tuple items => tuple (itemsApart around shape depth items)
  | mapping entries => mapping (entriesApart around shape (depth + 1) entries)
  | orderedMapping entries => orderedMapping (entriesApart around shape (depth + 1) entries)
  | value => value

def itemsApart (around : Value → Value) (shape : CollectionShape) (depth : Nat) :
    List Value → List Value
  | [] => []
  | item :: items => apart around shape depth item :: itemsApart around shape depth items

def entriesApart (around : Value → Value) (shape : CollectionShape) (depth : Nat) :
    List (Value × Value) → List (Value × Value)
  | [] => []
  | entry :: entries =>
      entryApart around shape depth entry :: entriesApart around shape depth entries

def entryApart (around : Value → Value) (shape : CollectionShape) (depth : Nat) :
    Value × Value → Value × Value
  | (key, value) => (key, apart around shape depth value)

end

def itemParts (before : List Value) : List Value → List Value
  | [] => []
  | item :: items =>
      let around := fun hole => sequence (before.reverse ++ hole :: items)
      item.apart around item.shape 0 :: itemParts (item :: before) items

def entryParts (make : List (Value × Value) → Value) (before : List (Value × Value)) :
    List (Value × Value) → List (Value × Value)
  | [] => []
  | (key, value) :: entries =>
      let around := fun hole => make (before.reverse ++ (key, hole) :: entries)
      (key, value.apart around value.shape 0) :: entryParts make ((key, value) :: before) entries

def inParts : Value → Value
  | sequence items => sequence (itemParts [] items)
  | mapping entries => mapping (entryParts mapping [] entries)
  | orderedMapping entries => orderedMapping (entryParts orderedMapping [] entries)
  | value => value

def mapEntries (change : Value → Value → Value) : Value → Value
  | mapping entries => mapping (entries.map fun entry => (entry.1, change entry.1 entry.2))
  | orderedMapping entries =>
      orderedMapping (entries.map fun entry => (entry.1, change entry.1 entry.2))
  | value => value

end TemplateTree.Value
