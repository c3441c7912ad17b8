import TemplateTree.Yaml.Problem
import TemplateTree.Yaml.Tag

/-!
Directives: lines in front of a document that tell its version and the handles of its tags.
-/
namespace TemplateTree.Yaml

inductive Directive where
  | version (version : Version)
  | handle (name start : Text)
  | other
deriving DecidableEq

namespace Directive

def isNameChar (c : Char) : Bool := c.isAlphanum || c = '-' || c = '_' || c = ':' || c = '.'

def number (input : List Spot) : Except Problem (Nat × List Spot) :=
  let digits := input.takeWhile fun spot => spot.char.isDigit
  if digits.isEmpty then .error .malformed
  else if ValueFault.digitLimit < digits.length then
    .error (.fault (.integerTooLong digits.length))
  else .ok (Text.digitsValue (digits.map Spot.char), input.drop digits.length)

def readVersion (input : List Spot) : Except Problem (Directive × List Spot) := do
  let (major, rest) ← number input
  match rest with
  | point :: rest =>
      if point.char ≠ '.' then throw .malformed
      let (minor, rest) ← number rest
      if major ≠ 1 then throw .malformed
      return (.version ⟨minor⟩, rest)
  | [] => throw .malformed

def readHandle? (version : Version) (input : List Spot) : Option (Directive × List Spot) := do
  let (name, rest) ←
    match input with
    | next :: _ => if next.char = ' ' then some (['!'], input) else WrittenTag.namedHandle? input
    | [] => none
  let behind := rest.dropWhile fun spot => spot.char = ' '
  if behind.length = rest.length then none
  let (start, rest) ← WrittenTag.tagText? version behind
  return (.handle name start, rest)

def read (version : Version) (input : List Spot) : Except Problem (Directive × List Spot) := do
  let written := input.takeWhile fun spot => isNameChar spot.char
  let behind := input.drop written.length
  if written.isEmpty || !Spot.spaceAhead behind then throw .malformed
  let name := String.ofList (written.map Spot.char)
  let next := behind.dropWhile fun spot => spot.char = ' '
  let (directive, rest) ←
    if name = "YAML" then readVersion next
    else if name = "TAG" then
      match next with
      | mark :: rest =>
          if mark.char = '!' then orMalformed (readHandle? version rest) else throw .malformed
      | [] => throw .malformed
    else pure (Directive.other, behind.dropWhile (!Spot.isBreak ·))
  if !Spot.spaceAhead rest then throw .malformed
  return (directive, ← orMalformed (Spot.lineBelow? rest))

end Directive

end TemplateTree.Yaml
