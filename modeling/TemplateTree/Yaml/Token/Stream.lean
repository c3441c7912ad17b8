import TemplateTree.Yaml.BlockScalar
import TemplateTree.Yaml.PlainScalar
import TemplateTree.Yaml.QuotedScalar
import TemplateTree.Yaml.Token.Scanner

/-!
Cutting a YAML stream into tokens. Block collections start where the indentation grows and end where
it shrinks. A key is known only by the colon behind it: the place of each token that may start a key
is kept until then, and its token is put in front afterwards.
-/
namespace TemplateTree.Yaml

namespace Scanner

abbrev Step := Except Problem (Scanner × List Spot)

def endDocument (scanner : Scanner) : Except Problem Scanner := do
  let scanner ← (scanner.unwind (-1)).dropKey
  return scanner.allowKey false

def documentMark (scanner : Scanner) (token : Token) (rest : List Spot) : Step := do
  let scanner ← scanner.endDocument
  return (scanner.push token, rest.drop 2)

def directive (scanner : Scanner) (rest : List Spot) : Step := do
  let scanner ← scanner.endDocument
  let (directive, rest) ← Directive.read scanner.version rest
  let version := match directive with
    | .version version => version
    | _ => scanner.version
  return ({ scanner.push (.directive directive) with version := version }, rest)

def flowStart (scanner : Scanner) (spot : Spot) (isSequence : Bool) (rest : List Spot) : Step := do
  let scanner ← scanner.saveKey spot
  let token := if isSequence then Token.flowSequenceStart else .flowMappingStart
  let inner :=
    { scanner.push token with
      key := none
      levels := ⟨isSequence, scanner.key⟩ :: scanner.levels
      keyAllowed := true }
  return (inner, rest)

def flowEnd (scanner : Scanner) (token : Token) (rest : List Spot) : Step := do
  let scanner ← scanner.dropKey
  let key := (scanner.levels.head?.map FlowLevel.outerKey).getD none
  let outer :=
    { scanner.push token with key := key, levels := scanner.levels.drop 1, keyAllowed := false }
  return (outer, rest)

def flowEntry (scanner : Scanner) (rest : List Spot) : Step := do
  let scanner ← scanner.dropKey
  return ((scanner.push .flowEntry).allowKey true, rest)

def blockStart (scanner : Scanner) (spot : Spot) (start : Token) : Except Problem Scanner :=
  if scanner.inFlow then .ok scanner
  else if scanner.keyAllowed then
    .ok (scanner.indentTo spot.column scanner.tokens.length start)
  else .error .malformed

def blockEntry (scanner : Scanner) (spot : Spot) (rest : List Spot) : Step := do
  let scanner ← scanner.blockStart spot .blockSequenceStart
  let scanner ← scanner.dropKey
  return ((scanner.push .blockEntry).allowKey true, rest)

def explicitKey (scanner : Scanner) (spot : Spot) (rest : List Spot) : Step := do
  let scanner ← scanner.blockStart spot .blockMappingStart
  let scanner ← scanner.dropKey
  return ((scanner.push .key).allowKey (!scanner.inFlow), rest)

def value (scanner : Scanner) (spot : Spot) (rest : List Spot) : Step :=
  match scanner.key with
  | some place =>
      let scanner := { scanner.insert place.tokens .key with key := none }
      let scanner :=
        if scanner.inFlow then scanner
        else scanner.indentTo place.column place.tokens .blockMappingStart
      .ok ((scanner.push .value).allowKey false, rest)
  | none => do
      let scanner ← scanner.blockStart spot .blockMappingStart
      return ((scanner.push .value).allowKey (!scanner.inFlow), rest)

def isAnchorChar (c : Char) : Bool :=
  (('!' ≤ c && c ≤ '~') || ('\xa0' ≤ c && c ≠ '\ufeff')) && !isFlowIndicator c

def named (scanner : Scanner) (spot : Spot) (token : Text → Token) (input : List Spot) : Step := do
  let scanner ← scanner.saveKey spot
  let name := input.takeWhile fun spot => isAnchorChar spot.char
  let rest := input.drop name.length
  let ends := Spot.endOr (fun c => isGap c || isFlowIndicator c) rest
  if name.isEmpty || !ends then throw .malformed
  return ((scanner.push (token (name.map Spot.char))).allowKey false, rest)

def tag (scanner : Scanner) (spot : Spot) (input : List Spot) : Step := do
  let scanner ← scanner.saveKey spot
  let (tag, rest) ← orMalformed (WrittenTag.read? scanner.version input)
  return ((scanner.push (.tag tag)).allowKey false, rest)

def blockText (scanner : Scanner) (folded : Bool) (input : List Spot) : Step := do
  let scanner ← scanner.dropKey
  let (text, rest) ← orMalformed (blockScalar folded scanner.indent input)
  return ((scanner.push (.scalar text false)).allowKey true, rest)

def quotedText (scanner : Scanner) (spot : Spot) (input : List Spot) : Step := do
  let scanner ← scanner.saveKey spot
  let (text, rest) ← quotedScalar spot.char input
  return ((scanner.push (.scalar text false)).allowKey false, rest)

def plainText (scanner : Scanner) (spot : Spot) (input : List Spot) : Step := do
  let scanner ← scanner.saveKey spot
  let scalar := plainScalar scanner.version scanner.inFlow scanner.indent (spot :: input)
  return ((scanner.push (.scalar scalar.text true)).allowKey scalar.endsLine, scalar.rest)

/-- Whether a colon stands between a key and its value: in front of a gap always, in a flow sequence
of version 1.2 only there, and in a flow mapping elsewhere too, but not right behind another colon
that is part of what may be a key. -/
def isValue (scanner : Scanner) (rest : List Spot) : Bool :=
  Spot.gapAhead rest ||
    match scanner.levels with
    | [] => false
    | level :: _ =>
        scanner.version.isFirst ||
          (!level.isSequence && (scanner.places.isEmpty || scanner.tokens.head? ≠ some .value))

def step (scanner : Scanner) (isValue : Bool) (spot : Spot) (rest : List Spot) : Step :=
  let gap := Spot.gapAhead rest
  if spot.char = '%' ∧ spot.column = 0 then scanner.directive rest
  else if Spot.isMarker '-' (spot :: rest) then scanner.documentMark .documentStart rest
  else if Spot.isMarker '.' (spot :: rest) then scanner.documentMark .documentEnd rest
  else if spot.char = '-' ∧ gap then scanner.blockEntry spot rest
  else if spot.char = '?' ∧ (gap ∨ scanner.inFlow) then scanner.explicitKey spot rest
  else if spot.char = ':' ∧ isValue then scanner.value spot rest
  else if startsPlain scanner.version scanner.inFlow spot.char rest then
    scanner.plainText spot rest
  else match spot.char with
    | '[' => scanner.flowStart spot true rest
    | '\x7b' => scanner.flowStart spot false rest
    | ']' => scanner.flowEnd .flowSequenceEnd rest
    | '\x7d' => scanner.flowEnd .flowMappingEnd rest
    | ',' => scanner.flowEntry rest
    | '*' => scanner.named spot .reference rest
    | '&' => scanner.named spot .anchor rest
    | '!' => scanner.tag spot rest
    | '\'' | '"' => scanner.quotedText spot rest
    | '|' => if scanner.inFlow then .error .malformed else scanner.blockText false rest
    | '>' => if scanner.inFlow then .error .malformed else scanner.blockText true rest
    | _ => .error .malformed

/-- The tokens of the rest of a stream, behind those that the scanner has read. At a problem, only
the settled tokens count as read. -/
def run (scanner : Scanner) (input : List Spot) : TokenStream :=
  match scanner.dropStale input with
  | .error problem => ⟨scanner.settled, some problem⟩
  | .ok scanner =>
      match scanner.skip false input with
      | (ended, []) =>
          match ended.endDocument with
          | .ok ended => ⟨ended.tokens.reverse, none⟩
          | .error problem => ⟨scanner.settled, some problem⟩
      | (next, spot :: rest) =>
          let isValue := scanner.isValue rest
          let read := do
            let next ← next.dropStale [spot]
            (next.unwind spot.column).step isValue spot rest
          match read with
          | .error problem => ⟨scanner.settled, some problem⟩
          | .ok (scanner, behind) =>
              if behind.length < input.length then scanner.run behind
              else ⟨scanner.settled, some .malformed⟩
termination_by input.length

end Scanner

def TokenStream.ofText (text : Text) : TokenStream :=
  if text.all isAllowed then Scanner.run {} (spots text) else ⟨[], some .malformed⟩

end TemplateTree.Yaml
