import TemplateTree.Yaml.Spot

/-!
Block scalars: the lines below a header that are indented at least as far as the first. A literal
scalar keeps its line breaks, a folded one joins lines that start with no space.
-/
namespace TemplateTree.Yaml

inductive Chomping where
  | strip
  | clip
  | keep
deriving DecidableEq

structure BlockHeader where
  chomping : Chomping := .clip
  increment : Option Nat := none

def BlockHeader.read? (header : BlockHeader) (c : Char) : Option BlockHeader :=
  if c = '+' ∧ header.chomping = .clip then some { header with chomping := .keep }
  else if c = '-' ∧ header.chomping = .clip then some { header with chomping := .strip }
  else if '1' ≤ c ∧ c ≤ '9' ∧ header.increment = none then
    some { header with increment := some (c.toNat - '0'.toNat) }
  else none

def blockHeader? (input : List Spot) : Option (BlockHeader × List Spot) := do
  let isPart := fun (spot : Spot) => spot.char = '+' || spot.char = '-' || spot.char.isDigit
  let written := (input.take 2).takeWhile isPart
  let header ← written.foldlM (fun (header : BlockHeader) spot => header.read? spot.char) {}
  let behind := input.drop written.length
  if !Spot.spaceAhead behind then none
  return (header, ← Spot.lineBelow? behind)

def dropIndent (indent : Nat) (input : List Spot) : List Spot :=
  input.dropWhile fun spot => spot.char = ' ' && spot.column < indent

def blankLines (indent : Nat) (input : List Spot) : Text × List Spot :=
  match _ : dropIndent indent input with
  | [] => ([], [])
  | spot :: rest =>
      if spot.isBreak then
        let (breaks, rest) := blankLines indent rest
        (breakText spot.char :: breaks, rest)
      else ([], spot :: rest)
termination_by input.length
decreasing_by
  have shorter : (dropIndent indent input).length ≤ input.length :=
    (List.dropWhile_suffix _).length_le
  rw [‹dropIndent indent input = _›, List.length_cons] at shorter
  omega

/-- The indentation of the first line that holds more than spaces, or of a longer line before it.
Where the first line holds spaces alone, no line up to that one is indented farther. -/
def detectedIndent? (input : List Spot) : Option Nat :=
  let gap := input.takeWhile fun spot => spot.char = ' ' || spot.isBreak
  let farthest := gap.foldl
    (fun indent spot => if spot.isBreak then indent else max indent (spot.column + 1)) 0
  let isExceeded := (gap.find? Spot.isBreak).any fun spot =>
    0 < spot.column && spot.column < farthest
  if isExceeded then none else some farthest

/-- The lines of a block scalar from one that starts at the indentation, with `read` in front of
them and the line breaks `breaks` before them; and what follows. The mark of a document ends lines
that need no indentation. -/
def blockLines (folded : Bool) (chomping : Chomping) (indent : Nat) (read breaks : Text) :
    List Spot → Text × List Spot
  | [] => (if chomping = .keep then read ++ breaks else read, [])
  | spot :: more =>
      if spot.column ≠ indent then (if chomping = .keep then read ++ breaks else read, spot :: more)
      else
        let line := (spot :: more).takeWhile (!·.isBreak)
        let behind := (spot :: more).drop line.length
        let lineEnd := (behind.take 1).map fun spot => breakText spot.char
        let (blank, rest) := blankLines indent (behind.drop 1)
        let read := read ++ breaks ++ line.map Spot.char
        let next := rest.head?.filter fun next =>
          next.column = indent && !Spot.isDocumentMarker rest
        match next with
        | some next =>
            let joins := folded && lineEnd = ['\n'] && !spot.isSpace && !next.isSpace
            let between := if !joins then lineEnd else if blank = [] then [' '] else []
            if _ : rest.length ≤ more.length then
              blockLines folded chomping indent (read ++ between) blank rest
            else (read, rest)
        | none =>
            let ending := match chomping with
              | .strip => []
              | .clip => lineEnd
              | .keep => lineEnd ++ blank
            (read ++ ending, rest)
termination_by input => input.length
decreasing_by exact Nat.lt_succ_of_le ‹_›

def blockScalar (folded : Bool) (indent : Int) (input : List Spot) :
    Option (Text × List Spot) := do
  let (header, lines) ← blockHeader? input
  let least := (indent + 1).toNat
  let column ← match header.increment with
    | some increment => some (max 1 least + increment - 1)
    | none => (detectedIndent? lines).map (max least)
  let (breaks, rest) := blankLines column lines
  return blockLines folded header.chomping column [] breaks rest

end TemplateTree.Yaml
