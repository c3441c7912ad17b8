import TemplateTree.Text.CodeRange

/-!
Blank characters, the words between them, and texts without blanks at their ends.
-/
namespace TemplateTree.Text

def blankRanges : List (Nat × Nat) :=
  [(0x9, 0xD), (0x1C, 0x20), (0x85, 0x85), (0xA0, 0xA0), (0x1680, 0x1680), (0x2000, 0x200A),
   (0x2028, 0x2029), (0x202F, 0x202F), (0x205F, 0x205F), (0x3000, 0x3000)]

def isBlank (c : Char) : Bool :=
  CodeRange.holds blankRanges c.toNat

def trimRight (text : Text) : Text :=
  (text.reverse.dropWhile isBlank).reverse

def trim (text : Text) : Text :=
  trimRight (text.dropWhile isBlank)

def words (text : Text) : List Text :=
  (pieces isBlank text).filter (· ≠ [])

end TemplateTree.Text
