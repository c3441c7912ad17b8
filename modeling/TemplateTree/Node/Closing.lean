import TemplateTree.Fragment
import TemplateTree.TreeError

/-!
Which closing tags name a node. Strict building asks this of every scope that it closes.
-/
namespace TemplateTree

def closingKeyword (closing : Text) : Except TreeError Text :=
  if closing = [] then .ok []
  else match closing.words with
    | [] => .error .blankClosing
    | word :: _ => .ok word

namespace Node

def closingKeywords (node : Node) : List Text :=
  [Fragment.endWord, Fragment.endWord ++ node.name]

/-- Whether the words behind the closing keyword fit: those behind the keyword of a block are none,
or its name. -/
def acceptsWords (node : Node) (behind : List Text) : Bool :=
  match node.content with
  | .block name => behind = [] || behind = [name]
  | _ => true

def acceptsClose (node : Node) (closing : Text) : Except TreeError Bool :=
  (closingKeyword closing).map fun keyword =>
    node.closingKeywords.contains keyword && node.acceptsWords closing.words.tail

end Node

end TemplateTree
