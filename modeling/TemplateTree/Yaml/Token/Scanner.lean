import TemplateTree.Yaml.Problem
import TemplateTree.Yaml.Spot
import TemplateTree.Yaml.Token

/-!
What is known in the middle of a YAML stream: the tokens so far, the places where keys may have
started, and the indentation of the collections that are not finished.
-/
namespace TemplateTree.Yaml

structure KeyPlace where
  required : Bool
  tokens : Nat
  line : Nat
  index : Nat
  column : Nat

structure FlowLevel where
  isSequence : Bool
  outerKey : Option KeyPlace

/-- What is known in front of the next token. The tokens stand last first, and the levels and
indentations innermost first; `indent` belongs to the innermost block collection. -/
structure Scanner where
  version : Version := .standard
  tokens : List Token := []
  keyAllowed : Bool := true
  key : Option KeyPlace := none
  levels : List FlowLevel := []
  indent : Int := -1
  outer : List Int := []

namespace Scanner

def inFlow (scanner : Scanner) : Bool := !scanner.levels.isEmpty

def push (scanner : Scanner) (token : Token) : Scanner :=
  { scanner with tokens := token :: scanner.tokens }

def insert (scanner : Scanner) (count : Nat) (token : Token) : Scanner :=
  let later := scanner.tokens.length - count
  { scanner with tokens := scanner.tokens.take later ++ token :: scanner.tokens.drop later }

def allowKey (scanner : Scanner) (allowed : Bool) : Scanner :=
  { scanner with keyAllowed := allowed }

/-! ## Places for keys -/

def dropKey (scanner : Scanner) : Except Problem Scanner :=
  if scanner.key.any KeyPlace.required then .error .malformed else .ok { scanner with key := none }

def saveKey (scanner : Scanner) (spot : Spot) : Except Problem Scanner :=
  if scanner.keyAllowed then do
    let dropped ← scanner.dropKey
    let place : KeyPlace :=
      { required := !scanner.inFlow && scanner.indent == spot.column
        tokens := scanner.tokens.length
        line := spot.line
        index := spot.index
        column := spot.column }
    return { dropped with key := some place }
  else .ok scanner

def keyLength : Nat := 1024

/-- A place for a key is lost behind its line, and when it is too far away. -/
def freshKey (spot : Spot) (place : Option KeyPlace) : Except Problem (Option KeyPlace) :=
  match place with
  | none => .ok none
  | some place =>
      if place.line = spot.line ∧ spot.index ≤ place.index + keyLength then .ok (some place)
      else if place.required then .error .malformed
      else .ok none

def freshLevel (spot : Spot) (level : FlowLevel) : Except Problem FlowLevel := do
  let outerKey ← freshKey spot level.outerKey
  return { level with outerKey := outerKey }

def dropStale (scanner : Scanner) (input : List Spot) : Except Problem Scanner :=
  match input with
  | [] => .ok scanner
  | spot :: _ => do
      let key ← freshKey spot scanner.key
      let levels ← scanner.levels.mapM (freshLevel spot)
      return { scanner with key := key, levels := levels }

def places (scanner : Scanner) : List KeyPlace :=
  (scanner.key :: scanner.levels.map FlowLevel.outerKey).filterMap id

/-- The tokens in front of all places for keys: no key will be put among them. -/
def settled (scanner : Scanner) : List Token :=
  let count := scanner.places.foldl (fun count place => min count place.tokens)
    scanner.tokens.length
  scanner.tokens.reverse.take count

/-! ## Indentation and gaps -/

def unwindFrom (column : Int) (tokens : List Token) (indent : Int) :
    List Int → List Token × Int × List Int
  | [] => (tokens, indent, [])
  | next :: outer =>
      if column < indent then unwindFrom column (.blockEnd :: tokens) next outer
      else (tokens, indent, next :: outer)

def unwind (scanner : Scanner) (column : Int) : Scanner :=
  if scanner.inFlow then scanner
  else
    let (tokens, indent, outer) :=
      unwindFrom column scanner.tokens scanner.indent scanner.outer
    { scanner with tokens := tokens, indent := indent, outer := outer }

/-- Starts a block collection behind the first `count` tokens, if the column is farther in. -/
def indentTo (scanner : Scanner) (column count : Nat) (token : Token) : Scanner :=
  if scanner.indent < column then
    { scanner.insert count token with indent := column, outer := scanner.indent :: scanner.outer }
  else scanner

def skip (scanner : Scanner) (inComment : Bool) : List Spot → Scanner × List Spot
  | [] => (scanner, [])
  | spot :: rest =>
      if inComment && !spot.isBreak then skip scanner true rest
      else if spot.isBreak then
        skip (if scanner.inFlow then scanner else scanner.allowKey true) false rest
      else if spot.char = '#' then skip scanner true rest
      else if spot.char = ' ' || (spot.char = '\t' && scanner.inFlow) then skip scanner false rest
      else (scanner, spot :: rest)

end Scanner

end TemplateTree.Yaml
