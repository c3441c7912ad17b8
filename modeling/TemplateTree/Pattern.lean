import TemplateTree.Text.Blank
import TemplateTree.Text.Digit
import TemplateTree.Text.Word

/-!
Patterns that tag rules look for. A pattern is a test of a text, built from left to right: each part
takes the pattern for what follows, and a repeated part may stop wherever the rest then fits.
-/
namespace TemplateTree

abbrev Pattern := Text → Bool

namespace Pattern

/-- The given word, and then what `next` accepts. -/
def word (expected : Text) (next : Pattern) : Pattern := fun text =>
  match text.dropPrefix? expected with
  | some rest => next rest
  | none => false

def many (isMember : Char → Bool) (next : Pattern) : Pattern
  | [] => next []
  | c :: text => next (c :: text) || (isMember c && many isMember next text)

def one (isMember : Char → Bool) (next : Pattern) : Pattern
  | [] => false
  | c :: text => isMember c && next text

def some (isMember : Char → Bool) (next : Pattern) : Pattern :=
  one isMember (many isMember next)

def anything : Pattern := fun _ => true

def lineEnd : Pattern := fun text => text = [] || text = ['\n']

def blanks (next : Pattern) : Pattern := some Text.isBlank next

def isLineChar (c : Char) : Bool := c ≠ '\n'

def restOfLine : Pattern := some isLineChar lineEnd

def contains (expected : Text) : Pattern := fun text => (text.cut? expected).isSome

def exactly (expected : Text) : Pattern := fun text => text = expected

def startsWith (expected : Text) : Pattern := word expected anything

def keyword (expected : Text) : Pattern := word expected (blanks restOfLine)

end Pattern

end TemplateTree
