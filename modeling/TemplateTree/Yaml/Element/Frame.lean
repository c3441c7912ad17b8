import TemplateTree.Yaml.Element
import TemplateTree.Yaml.Token

/-!
Collections of a YAML document that are not finished, with what their next token may be.
-/
namespace TemplateTree.Yaml

/-- The kinds of collections. A loose sequence is a value whose entries are not indented farther
than its key; a pair is a mapping of one entry inside a flow sequence. -/
inductive CollectionKind where
  | blockSequence
  | looseSequence
  | blockMapping
  | flowSequence
  | flowMapping
  | pair
deriving DecidableEq

/-- What a collection waits for: an item, a key or a value; the indicator behind a key; the start of
an entry; or, in a flow collection, the separator behind an entry. -/
inductive Slot where
  | item
  | key
  | afterKey
  | value
  | entry
  | separator
deriving DecidableEq

structure Frame where
  kind : CollectionKind
  tag : Tag
  anchor : Option Text
  slot : Slot
  items : List Element := []
  entries : List (Element × Element) := []
  key : Option Element := none

namespace Frame

def restSlot (frame : Frame) : Slot :=
  match frame.kind with
  | .flowSequence | .flowMapping | .pair => .separator
  | _ => .entry

def fill (frame : Frame) (element : Element) : Option Frame :=
  match frame.slot with
  | .item => some { frame with items := element :: frame.items, slot := frame.restSlot }
  | .key => some { frame with key := some element, slot := .afterKey }
  | .value =>
      frame.key.map fun key =>
        { frame with
          entries := (key, element) :: frame.entries, key := none, slot := frame.restSlot }
  | .entry =>
      if frame.kind = .flowSequence then
        some { frame with items := element :: frame.items, slot := .separator }
      else none
  | .afterKey | .separator => none

def fillAlone (frame : Frame) (key empty : Element) : Frame :=
  { frame with entries := (key, empty) :: frame.entries, slot := .separator }

def element (frame : Frame) : Element :=
  match frame.kind with
  | .blockSequence | .looseSequence | .flowSequence => .sequence frame.tag frame.items.reverse
  | .blockMapping | .flowMapping | .pair => .mapping frame.tag frame.entries.reverse

def leavesOut (frame : Frame) (token : Token) : Bool :=
  match frame.kind, frame.slot with
  | .blockSequence, .item => [.blockEntry, .blockEnd].contains token
  | .looseSequence, .item => [.blockEntry, .key, .value, .blockEnd].contains token
  | .blockMapping, .key | .blockMapping, .value => [.key, .value, .blockEnd].contains token
  | .flowMapping, .key => [.value, .flowEntry, .flowMappingEnd].contains token
  | .flowMapping, .value => [.flowEntry, .flowMappingEnd].contains token
  | .pair, .key => [.value, .flowEntry, .flowSequenceEnd].contains token
  | .pair, .value => [.flowEntry, .flowSequenceEnd].contains token
  | _, _ => false

end Frame

end TemplateTree.Yaml
