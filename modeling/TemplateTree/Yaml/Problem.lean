import TemplateTree.Value

/-!
Why a text gives no value, and what reads texts as values.
-/
namespace TemplateTree.Yaml

/-- A text is malformed if it breaks a rule of YAML or of its schema; it has a fault if it is
well-formed and something in it has the form of a value that does not exist. -/
inductive Problem where
  | malformed
  | fault (fault : ValueFault)
deriving DecidableEq

abbrev Reader := Text → Except Problem Value

def orMalformed {α : Type} : Option α → Except Problem α
  | some result => .ok result
  | none => .error .malformed

end TemplateTree.Yaml
