import TemplateTree.Yaml.Spot
import TemplateTree.Yaml.Version

/-!
Plain scalars: texts without quotes, which indicators, comments and less indented lines end.
-/
namespace TemplateTree.Yaml

def isFlowIndicator (c : Char) : Bool :=
  c = ',' || c = '[' || c = ']' || c = '\x7b' || c = '\x7d'

/-- Whether a part of a plain scalar ends at a character with the given rest behind it. A colon with
no gap behind it belongs to the scalar, and in version 1.2 a question mark does. -/
def endsPlain (version : Version) (inFlow : Bool) (c : Char) (rest : List Spot) : Bool :=
  if c = ':' then Spot.gapAhead rest
  else if c = '?' then inFlow && version.isFirst
  else isGap c || (inFlow && isFlowIndicator c)

def isIndicator (c : Char) : Bool :=
  isFlowIndicator c ||
    ['-', '?', ':', '#', '&', '*', '!', '|', '>', '\'', '"', '%', '@', '\x60'].contains c

/-- Whether a plain scalar starts with a character. A hyphen, a question mark or a colon does where
no gap follows it; in flow collections a question mark never does, and a colon does in version 1.2
where no space follows it. -/
def startsPlain (version : Version) (inFlow : Bool) (c : Char) (rest : List Spot) : Bool :=
  !(isGap c || isIndicator c) ||
    (!Spot.gapAhead rest && (c = '-' || ((c = '?' || c = ':') && !inFlow))) ||
    (c = ':' && inFlow && !version.isFirst && !rest.head?.any Spot.isSpace)

/-- The part of a plain scalar up to the next gap or indicator, with `read` in front of it (last
character first), and what follows it. -/
def plainPart (version : Version) (inFlow : Bool) (read : Text) : List Spot → Text × List Spot
  | [] => (read.reverse, [])
  | spot :: rest =>
      if endsPlain version inFlow spot.char rest then (read.reverse, spot :: rest)
      else plainPart version inFlow (spot.char :: read) rest

structure PlainScalar where
  text : Text
  rest : List Spot
  endsLine : Bool

/-- The parts of a plain scalar behind `known`, each with what stands for the gap before it;
`indent` is the least column of its further lines. -/
def plainScalarFrom (version : Version) (inFlow : Bool) (indent : Int) (known : PlainScalar)
    (gapText : Text) : PlainScalar :=
  match plainPart version inFlow [] known.rest with
  | ([], _) => known
  | (part, behindPart) =>
      let gap := behindPart.takeWhile fun spot => spot.char = ' ' || spot.isBreak
      let behind := behindPart.drop gap.length
      let scalar : PlainScalar := ⟨known.text ++ gapText ++ part, behind, gap.any Spot.isBreak⟩
      let ends := match behind with
        | [] => true
        | spot :: _ =>
            gap.isEmpty || Spot.reachesMark gap behind || spot.char = '#' ||
              (!inFlow && decide ((spot.column : Int) < indent))
      if ends then scalar
      else if _ : behind.length < known.rest.length then
        plainScalarFrom version inFlow indent scalar (Spot.foldGap gap)
      else scalar
termination_by known.rest.length
decreasing_by exact ‹_›

def plainScalar (version : Version) (inFlow : Bool) (indent : Int) (input : List Spot) :
    PlainScalar :=
  plainScalarFrom version inFlow (indent + 1) ⟨[], input, false⟩ []

end TemplateTree.Yaml
