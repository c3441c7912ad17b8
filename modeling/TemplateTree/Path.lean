import TemplateTree.Text.Basic

/-!
Paths of files in their shortest spelling: no empty parts and no parts that stay where they are.
-/
namespace TemplateTree

structure Path where
  anchor : Text
  parts : List Text
deriving DecidableEq

namespace Path

def up : Text := ['.', '.']

/-- Two slashes at the start are kept, three and more count as one. -/
def anchorOf (text : Text) : Text :=
  match text.takeWhile (· = '/') with
  | [] => []
  | ['/', '/'] => ['/', '/']
  | _ => ['/']

def ofText (text : Text) : Path :=
  ⟨anchorOf text, (text.pieces (· = '/')).filter fun part => part ≠ [] && part ≠ ['.']⟩

def toText (path : Path) : Text :=
  match path.anchor ++ Text.joined ['/'] path.parts with
  | [] => ['.']
  | text => text

def append (path : Path) (part : Text) : Path := ⟨path.anchor, path.parts ++ [part]⟩

end Path

end TemplateTree
