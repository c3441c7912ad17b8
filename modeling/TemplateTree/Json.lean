import TemplateTree.Text.Basic

/-!
JSON documents.
-/
namespace TemplateTree

inductive Json where
  | text (value : Text)
  | number (value : Nat)
  | array (items : List Json)
  | object (members : List (Text × Json))

end TemplateTree
