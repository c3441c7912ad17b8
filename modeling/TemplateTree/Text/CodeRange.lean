import TemplateTree.Text.Basic

/-!
Character classes given as tables of code point ranges in ascending order.
-/
namespace TemplateTree.Text

/-- Whether one of the ranges holds the code point; the ranges ascend, so the search stops at the
first range that starts beyond it. -/
def CodeRange.holds : List (Nat × Nat) → Nat → Bool
  | [], _ => false
  | (first, last) :: rest, code =>
      if code < first then false else if code ≤ last then true else holds rest code

/-- Code points counted from the first range that starts at most `span` before the searched one. -/
def CodeRange.offset? (span : Nat) : List Nat → Nat → Option Nat
  | [], _ => none
  | start :: rest, code =>
      if code < start then none
      else if code < start + span then some (code - start) else offset? span rest code

end TemplateTree.Text
