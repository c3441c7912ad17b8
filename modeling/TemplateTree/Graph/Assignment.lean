import TemplateTree.Graph

/-!
How a node of a graph takes a tag, one assignment after the other. Where the tag is refused on the way, the
node keeps what has been assigned up to there.
-/
namespace TemplateTree

namespace Content

def setTargets (targets : List Text) : Content → Content
  | loop _ iterable => loop targets iterable
  | content => content

def setIterable (iterable : Text) : Content → Content
  | loop targets _ => loop targets iterable
  | content => content

def setSeconds (seconds : Nat) : Content → Content
  | cache _ key => cache seconds key
  | content => content

def setKey (key : Text) : Content → Content
  | cache seconds _ => cache seconds key
  | content => content

def cacheParts? (tag : Text) : Option (Text × Text) :=
  match tag.dropPrefix? Kind.cache.name with
  | none => none
  | some rest =>
      let body := rest.dropWhile Text.isBlank
      let digits := body.takeWhile Text.isDigit
      if body.length < rest.length && digits ≠ [] then (Text.argument? body digits).map (digits, ·)
      else none

end Content

/-- Assignments to a node, in their order. An error leaves the node as it is then. -/
abbrev Assignment := EStateM TreeError Cell

namespace Assignment

def setTag (tag : Text) : Assignment Unit :=
  modify fun cell => { cell with node := { cell.node with tag := some tag } }

def change (assign : Content → Content) : Assignment Unit :=
  modify fun cell => { cell with node := { cell.node with content := assign cell.node.content } }

def found {α : Type} (tag : Text) : Option α → Assignment α
  | some parts => pure parts
  | none => throw (.unknownTag tag)

def number (digits : Text) : Assignment Nat :=
  if digits.length ≤ TreeError.digitLimit then pure (Text.digitsValue digits)
  else throw (.numberTooLong digits.length)

def takeLoop (tag : Text) : Assignment Unit := do
  let (written, iterable) ← found tag (Content.loopParts? tag)
  let targets := written.listed
  unless targets ≠ [] && targets.all Text.isWord do throw (.invalidTargets tag)
  change (·.setTargets targets)
  change (·.setIterable iterable)

def takeCache (tag : Text) : Assignment Unit := do
  let (digits, key) ← found tag (Content.cacheParts? tag)
  let seconds ← number digits
  change (·.setSeconds seconds)
  change (·.setKey key)

def takeItem (content : Content) (fragment : Fragment) : Assignment Unit := do
  let read ← ofExcept (content.read fragment)
  change fun _ => read

def takeTag (fragment : Fragment) : Assignment Unit := do
  setTag fragment.clean
  match (← get).node.content with
  | .loop _ _ => takeLoop fragment.clean
  | .cache _ _ => takeCache fragment.clean
  | content => takeItem content fragment

end Assignment

namespace Cell

def absorb (cell : Cell) (fragment : Fragment) : Cell × Option TreeError :=
  match (Assignment.takeTag fragment).run cell with
  | .ok _ cell => (cell, none)
  | .error error cell => (cell, some error)

def absorbAll (cell : Cell) (fragments : List Fragment) : Cell :=
  fragments.foldl (fun cell fragment => (cell.absorb fragment).1) cell

end Cell

end TemplateTree
