import TemplateTree.Text.Digit
import TemplateTree.Yaml.Problem
import TemplateTree.Yaml.Spot

/-!
Quoted scalars. Between single quotes only the quote itself is special, and is written twice;
between double quotes a backslash starts an escape. Line breaks are folded as in plain scalars.
-/
namespace TemplateTree.Yaml

def escapeLetter? (c : Char) : Option Char :=
  List.lookup c
    [('0', '\x00'), ('a', '\x07'), ('b', '\x08'), ('t', '\t'), ('\t', '\t'), ('n', '\n'),
     ('v', '\x0b'), ('f', '\x0c'), ('r', '\r'), ('e', '\x1b'), (' ', ' '), ('"', '"'), ('/', '/'),
     ('\\', '\\'), ('N', '\x85'), ('_', '\xa0'), ('L', '\u2028'), ('P', '\u2029')]

def escapeWidth? (c : Char) : Option Nat :=
  List.lookup c [('x', 2), ('u', 4), ('U', 8)]

def gapText (escaped : Bool) (gap : List Spot) : Text :=
  if escaped then (gap.filter Spot.isBreak).map fun spot => breakText spot.char
  else Spot.foldGap gap

def escapedCode? (width : Nat) (input : List Spot) : Option (Nat × List Spot) :=
  let digits := input.take width
  if digits.length < width then none
  else (Text.baseValue? 16 (digits.map Spot.char)).map fun code => (code, input.drop width)

def nextCode? : List Spot → Option (Nat × List Spot)
  | slash :: letter :: rest =>
      if slash.char = '\\' then
        (escapeWidth? letter.char).bind fun width => escapedCode? width rest
      else none
  | _ => none

def joinHalves? (high low : Nat) : Option Char :=
  if 0xD800 ≤ high ∧ high < 0xDC00 ∧ 0xDC00 ≤ low ∧ low < 0xE000 then
    some (Char.ofNat (0x10000 + (high - 0xD800) * 0x400 + (low - 0xDC00)))
  else none

def charOfCode (code : Nat) (rest : List Spot) : Except Problem (Char × List Spot) :=
  if code.isValidChar then .ok (Char.ofNat code, rest)
  else if code < 0x110000 then
    orMalformed ((nextCode? rest).bind fun (low, rest) =>
      (joinHalves? code low).map fun c => (c, rest))
  else if code < 0x80000000 then .error (.fault .noCharacter)
  else .error (.fault .codeTooLong)

def escapedChar (letter : Char) (input : List Spot) : Except Problem (Char × List Spot) :=
  match escapeLetter? letter, escapeWidth? letter with
  | some c, _ => .ok (c, input)
  | none, some width => do
      let (code, rest) ← orMalformed (escapedCode? width input)
      charOfCode code rest
  | none, none => .error .malformed

/-- The rest of a scalar between quotes of one kind, with the text `read` in front of it (last
character first), and what follows the closing quote; `lineEnd` is the escaped line break that comes
directly before, if one does. -/
def quotedFrom (quote : Char) (lineEnd : List Spot) (read : Text) (input : List Spot) :
    Except Problem (Text × List Spot) :=
  let gap := input.takeWhile Spot.isGap
  let behind := input.drop gap.length
  let read := (gapText (!lineEnd.isEmpty) gap).reverse ++ read
  let continueWith := fun (lineEnd : List Spot) (read : Text) (rest : List Spot) =>
    if rest.length < input.length then quotedFrom quote lineEnd read rest else .error .malformed
  if Spot.reachesMark (lineEnd ++ gap) behind then .error .malformed
  else match behind with
    | [] => .error .malformed
    | spot :: rest =>
        if spot.char = quote then
          match rest with
          | next :: more =>
              if quote = '\'' ∧ next.char = '\'' then continueWith [] ('\'' :: read) more
              else .ok (read.reverse, rest)
          | [] => .ok (read.reverse, [])
        else if quote = '"' ∧ spot.char = '\\' then
          match rest with
          | [] => .error .malformed
          | next :: more =>
              if next.isBreak then continueWith [next] read more
              else
                match escapedChar next.char more with
                | .error problem => .error problem
                | .ok (c, more) => continueWith [] (c :: read) more
        else continueWith [] (spot.char :: read) rest
termination_by input.length

def quotedScalar (quote : Char) (input : List Spot) : Except Problem (Text × List Spot) :=
  quotedFrom quote [] [] input

end TemplateTree.Yaml
