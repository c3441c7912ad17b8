import TemplateTree.Tree

/-!
Listings of trees: one line per node, indented by two spaces per level. A node that is text shows
only the start of a long text.
-/
namespace TemplateTree

def previewLength : Nat := 50

def Text.preview (text : Text) : Text :=
  if previewLength < text.length then text.take previewLength ++ ['.', '.', '.'] else text

def Node.line (node : Node) : Text :=
  match node.content with
  | .text text => Kind.text.label ++ '(' :: (text.preview.quoted ++ [')'])
  | _ => node.describe

/-- The line of a node at a depth; a negative depth gives no indentation. -/
def Node.lineAt (node : Node) (depth : Int) : Text :=
  List.replicate (2 * depth.toNat) ' ' ++ node.line

namespace Tree

mutual

def lines (depth : Int) : Tree → List Text
  | mk node children => node.lineAt depth :: linesAll (depth + 1) children

def linesAll (depth : Int) : List Tree → List Text
  | [] => []
  | tree :: trees => lines depth tree ++ linesAll depth trees

end

def listing (tree : Tree) (depth : Int) : Text :=
  Text.joined ['\n'] (tree.lines depth)

end Tree

end TemplateTree
