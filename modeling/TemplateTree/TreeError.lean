import TemplateTree.Node

/-!
What can be wrong with a template.
-/
namespace TemplateTree

inductive TreeError where
  | unknownTag (tag : Text)
  | invalidTargets (tag : Text)
  | duplicateAlternative (tag : Text) (conditional : Node)
  | numberTooLong (digits : Nat)
  | strayClose
  | unclosed (node : Node)
  | mismatchedClose (node : Node) (closing : Text)
  | childOfLeaf (node : Node)
  | blankClosing
deriving DecidableEq

namespace TreeError

def digitLimit : Nat := 4300

def tagText (node : Node) : Text :=
  node.tag.getD "None".toList

def message : TreeError → Text
  | unknownTag tag => "Unknown tag: '".toList ++ tag ++ ['\'']
  | invalidTargets tag => "Invalid loop variables in '".toList ++ tag ++ ['\'']
  | duplicateAlternative _ conditional =>
      "Duplicate 'else' in '".toList ++ tagText conditional ++ ['\'']
  | numberTooLong digits =>
      "Exceeds the limit (".toList ++ Text.ofNat digitLimit ++
        " digits) for integer string conversion: value has ".toList ++ Text.ofNat digits ++
        " digits; use sys.set_int_max_str_digits() to increase the limit".toList
  | strayClose => "nesting issues".toList
  | unclosed node =>
      "There is non-closed tag ".toList ++ node.name ++ " ('".toList ++ tagText node ++ "')".toList
  | mismatchedClose node closing =>
      "Tag '".toList ++ closing ++ "' cannot close '".toList ++ node.name ++
        "' (expected 'end' or 'end".toList ++ node.name ++ "')".toList
  | childOfLeaf node => '\'' :: (node.name ++ "' node cannot contain other nodes".toList)
  | blankClosing => "list index out of range".toList

def node? : TreeError → Option Node
  | unclosed node | mismatchedClose node _ | childOfLeaf node => some node
  | _ => none

end TreeError

end TemplateTree
