import TemplateTree.Text.Basic

/-!
Characters of a YAML stream with their places. Places decide about indentation, and about whether a
line holds a key.
-/
namespace TemplateTree.Yaml

structure Spot where
  char : Char
  line : Nat
  column : Nat
  index : Nat

def isBreak (c : Char) : Bool := c = '\n' || c = '\x85' || c = '\u2028' || c = '\u2029'

def isSpace (c : Char) : Bool := c = ' ' || c = '\t'

def isGap (c : Char) : Bool := isSpace c || isBreak c

def breakText (c : Char) : Char := if c = '\x85' then '\n' else c

def isAllowed (c : Char) : Bool :=
  c = '\t' || c = '\n' || c = '\r' || (' ' ≤ c && c ≤ '~') || c = '\x85' ||
    ('\xa0' ≤ c && c ≤ '\ufffd') || 0x10000 ≤ c.toNat

/-- The characters of a text from a place on. A line feed ends a line, and a byte order mark has no
width. -/
def spotsFrom (line column index : Nat) : Text → List Spot
  | [] => []
  | c :: text =>
      ⟨c, line, column, index⟩ ::
        if c = '\n' then spotsFrom (line + 1) 0 (index + 1) text
        else spotsFrom line (if c = '\ufeff' then column else column + 1) (index + 1) text

def spots : Text → List Spot
  | '\ufeff' :: text => spotsFrom 0 0 0 text
  | text => spotsFrom 0 0 0 text

namespace Spot

def isBreak (spot : Spot) : Bool := Yaml.isBreak spot.char

def isSpace (spot : Spot) : Bool := Yaml.isSpace spot.char

def isGap (spot : Spot) : Bool := Yaml.isGap spot.char

def endOr (isIn : Char → Bool) : List Spot → Bool
  | [] => true
  | spot :: _ => isIn spot.char

def gapAhead (input : List Spot) : Bool := endOr Yaml.isGap input

def spaceAhead (input : List Spot) : Bool :=
  endOr (fun c => c = ' ' || Yaml.isBreak c) input

def isMark (mark : Char) : List Spot → Bool
  | first :: second :: third :: rest =>
      first.char = mark && second.char = mark && third.char = mark && gapAhead rest
  | _ => false

def isMarker (mark : Char) (input : List Spot) : Bool :=
  (input.head?.any fun spot => spot.column = 0) && isMark mark input

def isDocumentMarker (input : List Spot) : Bool := isMarker '-' input || isMarker '.' input

def reachesMark (gap behind : List Spot) : Bool :=
  gap.getLast?.any isBreak && (isMark '-' behind || isMark '.' behind)

/-- What a gap inside a scalar stands for: the spaces themselves on one line; a space for a single
line break; the line breaks but the first for several. Other marks than line feeds are kept. -/
def foldGap (gap : List Spot) : Text :=
  let breaks := (gap.filter isBreak).map fun spot => breakText spot.char
  match breaks with
  | [] => gap.map Spot.char
  | ['\n'] => [' ']
  | '\n' :: more => more
  | breaks => breaks

def lineBelow? (input : List Spot) : Option (List Spot) :=
  let behind := input.dropWhile fun spot => spot.char = ' '
  let behind := match behind with
    | spot :: _ => if spot.char = '#' then behind.dropWhile (!Spot.isBreak ·) else behind
    | [] => []
  match behind with
  | [] => some []
  | spot :: rest => if spot.isBreak then some rest else none

end Spot

end TemplateTree.Yaml
