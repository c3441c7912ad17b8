import TemplateTree.Yaml.Element.Frame
import TemplateTree.Yaml.Tag.Plain

/-!
Putting the elements of a YAML document together from its tokens, one by one. Collections that are
not finished form a stack, innermost first. An element that is left out is an empty scalar.
-/
namespace TemplateTree.Yaml

structure Anchor where
  name : Text
  element : Element
  isFinished : Bool

inductive Phase where
  | fresh
  | directed
  | inside
  | ended
deriving DecidableEq

structure Assembly where
  phase : Phase := .fresh
  version : Option Version := none
  handles : List (Text × Text) := []
  frames : List Frame := []
  properties : Properties := {}
  anchors : List Anchor := []
  root : Option Element := none

def bindAnchor (name : Text) (element : Element) : List Anchor → List Anchor
  | [] => []
  | anchor :: anchors =>
      if anchor.name = name ∧ !anchor.isFinished then ⟨name, element, true⟩ :: anchors
      else anchor :: bindAnchor name element anchors

namespace Assembly

abbrev Result := Except Problem Assembly

def rules (assembly : Assembly) : Version := assembly.version.getD .standard

def emptyElement (assembly : Assembly) : Except Problem Element := do
  let tag ← Tag.ofPlain assembly.rules []
  return .scalar tag []

/-- The kind of a scalar: a tag names it, or else the text of a plain one tells it. The tag of a
single exclamation mark makes a scalar count as plain. -/
def scalarTag (assembly : Assembly) (text : Text) (isPlain : Bool) : Except Problem Tag :=
  match assembly.properties.tag with
  | none => if isPlain then Tag.ofPlain assembly.rules text else .ok .text
  | some ['!'] => Tag.ofPlain assembly.rules text
  | some name => .ok (Tag.ofName name)

def expectsElement (assembly : Assembly) : Bool :=
  match assembly.frames with
  | [] => assembly.root.isNone && (assembly.phase = .fresh || assembly.phase = .inside)
  | frame :: _ =>
      match frame.slot with
      | .item | .key | .value => true
      | .entry => frame.kind = .flowSequence || frame.kind = .flowMapping
      | .afterKey | .separator => false

/-- Fills the slot of the innermost collection. A key of a flow mapping may stand alone, and a pair
is finished with its value. -/
def put (assembly : Assembly) (element : Element) : Result := do
  if !assembly.expectsElement then throw .malformed
  match assembly.frames with
  | [] => return { assembly with root := some element, phase := .inside }
  | frame :: frames =>
      if frame.kind = .flowMapping ∧ frame.slot = .entry then
        let empty ← assembly.emptyElement
        return { assembly with frames := frame.fillAlone element empty :: frames }
      let frame ← orMalformed (frame.fill element)
      if frame.kind = .pair ∧ frame.slot = .separator then
        match frames with
        | outer :: frames =>
            let outer ← orMalformed (outer.fill frame.element)
            return { assembly with frames := outer :: frames }
        | [] => throw .malformed
      else return { assembly with frames := frame :: frames }

def leaf (assembly : Assembly) (element : Element) : Result :=
  let anchors := match assembly.properties.anchor with
    | some name => ⟨name, element, true⟩ :: assembly.anchors
    | none => assembly.anchors
  { assembly with anchors := anchors, properties := {} }.put element

def scalar (assembly : Assembly) (text : Text) (isPlain : Bool) : Result := do
  if !assembly.expectsElement then throw .malformed
  let tag ← assembly.scalarTag text isPlain
  assembly.leaf (.scalar tag text)

def start (assembly : Assembly) (kind : CollectionKind) (standard : Tag) (slot : Slot) : Result :=
  if assembly.expectsElement then
    let tag := assembly.properties.collectionTag standard
    let anchor := assembly.properties.anchor
    let anchors := match anchor with
      | some name => ⟨name, .recurrence assembly.frames.length tag, false⟩ :: assembly.anchors
      | none => assembly.anchors
    let frame : Frame := { kind := kind, tag := tag, anchor := anchor, slot := slot }
    .ok { assembly with
      phase := .inside
      frames := frame :: assembly.frames
      properties := {}
      anchors := anchors }
  else .error .malformed

def close (assembly : Assembly) : Result :=
  match assembly.frames with
  | [] => .error .malformed
  | frame :: frames =>
      let anchors := match frame.anchor with
        | some name => bindAnchor name frame.element assembly.anchors
        | none => assembly.anchors
      { assembly with frames := frames, anchors := anchors }.put frame.element

def innermost (assembly : Assembly) : Option (CollectionKind × Slot) :=
  assembly.frames.head?.map fun frame => (frame.kind, frame.slot)

def withSlot (assembly : Assembly) (slot : Slot) : Result :=
  match assembly.frames with
  | frame :: frames => .ok { assembly with frames := { frame with slot := slot } :: frames }
  | [] => .error .malformed

/-! ## What is left out -/

def endsDocument : Token → Bool
  | .documentStart | .documentEnd | .directive _ => true
  | _ => false

/-- Puts an empty element where one is left out in front of a token. Properties on their own stand
for an empty element too, and so does a document with nothing in it. -/
def fillSlot (assembly : Assembly) (token : Option Token) : Result :=
  let isLeftOut := match assembly.frames.head? with
    | some frame => token.any frame.leavesOut
    | none => assembly.phase = .inside && assembly.root.isNone && token.all endsDocument
  if isLeftOut || !assembly.properties.isEmpty then assembly.scalar [] true else .ok assembly

def closeLoose (assembly : Assembly) (token : Option Token) : Result :=
  if assembly.innermost = some (.looseSequence, .entry) ∧ token ≠ some .blockEntry then
    assembly.close
  else .ok assembly

def fillValue (assembly : Assembly) (token : Option Token) : Result := do
  if assembly.innermost.any (fun place => place.2 = .afterKey) ∧ token ≠ some .value then
    (← assembly.withSlot .value).scalar [] true
  else return assembly

def fillGaps (assembly : Assembly) (token : Option Token) : Result := do
  (← assembly.closeLoose token).fillValue token

/-! ## Tokens -/

def blockEntry (assembly : Assembly) : Result :=
  match assembly.innermost with
  | some (.blockSequence, .entry) | some (.looseSequence, .entry) => assembly.withSlot .item
  | some (.blockMapping, .key) | some (.blockMapping, .value) =>
      assembly.start .looseSequence .sequence .item
  | _ => .error .malformed

def key (assembly : Assembly) : Result :=
  match assembly.innermost with
  | some (.blockMapping, .entry) | some (.flowMapping, .entry) => assembly.withSlot .key
  | some (.flowSequence, .entry) => assembly.start .pair .mapping .key
  | _ => .error .malformed

def value (assembly : Assembly) : Result := do
  match assembly.innermost with
  | some (_, .afterKey) => assembly.withSlot .value
  | some (.blockMapping, .entry) | some (.flowMapping, .entry) =>
      if !assembly.rules.allowsEmptyKey then throw .malformed
      (← (← assembly.withSlot .key).scalar [] true).withSlot .value
  | _ => throw .malformed

def flowEntry (assembly : Assembly) : Result :=
  if assembly.innermost.any fun place => place.2 = .separator then assembly.withSlot .entry
  else .error .malformed

def flowEnd (assembly : Assembly) (kind : CollectionKind) : Result :=
  if assembly.innermost = some (kind, .entry) ∨ assembly.innermost = some (kind, .separator) then
    assembly.close
  else .error .malformed

def blockEnd (assembly : Assembly) : Result :=
  match assembly.innermost with
  | some (.blockSequence, .entry) | some (.blockMapping, .entry) => assembly.close
  | _ => .error .malformed

def reference (assembly : Assembly) (name : Text) : Result := do
  let anchor ← orMalformed (assembly.anchors.find? fun anchor => anchor.name = name)
  assembly.leaf anchor.element

def anchor (assembly : Assembly) (name : Text) : Result :=
  if assembly.expectsElement && assembly.properties.anchor.isNone then
    .ok { assembly with
      phase := .inside, properties := { assembly.properties with anchor := some name } }
  else .error .malformed

def tag (assembly : Assembly) (written : WrittenTag) : Result := do
  if !assembly.expectsElement || assembly.properties.tag.isSome then throw .malformed
  let name ← orMalformed (written.name? (assembly.handles ++ Tag.standardHandles))
  return { assembly with
    phase := .inside, properties := { assembly.properties with tag := some name } }

def directive (assembly : Assembly) (directive : Directive) : Result :=
  if assembly.phase = .fresh ∨ assembly.phase = .directed then
    match directive with
    | .version version =>
        if assembly.version.isSome then .error .malformed
        else .ok { assembly with phase := .directed, version := some version }
    | .handle name start =>
        if (assembly.handles.lookup name).isSome then .error .malformed
        else
          .ok { assembly with
            phase := .directed, handles := (name, start) :: assembly.handles }
    | .other => .ok { assembly with phase := .directed }
  else .error .malformed

def documentStart (assembly : Assembly) : Result :=
  if assembly.phase = .fresh ∨ assembly.phase = .directed then
    .ok { assembly with phase := .inside }
  else .error .malformed

def documentEnd (assembly : Assembly) : Result :=
  if assembly.frames.isEmpty &&
      (assembly.phase = .inside || (assembly.phase = .ended && assembly.rules.isFirst)) then
    .ok { assembly with phase := .ended }
  else .error .malformed

def continuesElement (properties : Properties) : Token → Bool
  | .anchor _ => properties.anchor.isNone
  | .tag _ => properties.tag.isNone
  | .scalar _ _ => true
  | .flowSequenceStart | .flowMappingStart | .blockSequenceStart | .blockMappingStart => true
  | _ => false

def startsLoose (assembly : Assembly) (token : Token) : Bool :=
  token = .blockEntry &&
    (assembly.innermost = some (.blockMapping, .key) ||
      assembly.innermost = some (.blockMapping, .value))

def step (assembly : Assembly) (token : Token) : Result := do
  let continues := continuesElement assembly.properties token || assembly.startsLoose token
  let assembly ← if continues then pure assembly else assembly.fillSlot (some token)
  let assembly ← assembly.fillGaps (some token)
  match token with
  | .directive directive => assembly.directive directive
  | .documentStart => assembly.documentStart
  | .documentEnd => assembly.documentEnd
  | .blockSequenceStart => assembly.start .blockSequence .sequence .entry
  | .blockMappingStart => assembly.start .blockMapping .mapping .entry
  | .blockEnd => assembly.blockEnd
  | .flowSequenceStart => assembly.start .flowSequence .sequence .entry
  | .flowSequenceEnd => assembly.flowEnd .flowSequence
  | .flowMappingStart => assembly.start .flowMapping .mapping .entry
  | .flowMappingEnd => assembly.flowEnd .flowMapping
  | .flowEntry => assembly.flowEntry
  | .blockEntry => assembly.blockEntry
  | .key => assembly.key
  | .value => assembly.value
  | .reference name => assembly.reference name
  | .anchor name => assembly.anchor name
  | .tag written => assembly.tag written
  | .scalar text isPlain => assembly.scalar text isPlain

end Assembly

def Element.ofStream (stream : TokenStream) : Except Problem (Version × Element) := do
  let assembly ← stream.tokens.foldlM Assembly.step {}
  if let some problem := stream.problem then throw problem
  let assembly ← (← assembly.fillSlot none).fillGaps none
  if !assembly.frames.isEmpty || assembly.phase = .directed then throw .malformed
  return (assembly.rules, assembly.root.getD (.scalar .null []))

end TemplateTree.Yaml
