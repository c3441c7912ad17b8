import TemplateTree.Registry

/-!
How a registry takes a rule, one change after the other. Where the rule is refused on the way, the
registry keeps what has been changed up to there.
-/
namespace TemplateTree.Registry

/-- Changes of a registry, in their order. An error leaves the registry as it is then. -/
abbrev Change := EStateM RegistryError Registry

namespace Change

def push (rule : TagRule) : Change Unit :=
  modify fun registry => ⟨registry.rules ++ [rule]⟩

def insertAt (position : Nat) (rule : TagRule) : Change Unit :=
  modify fun registry => ⟨registry.rules.take position ++ rule :: registry.rules.drop position⟩

def insertBefore (name : Text) (rule : TagRule) (position : Nat) : List TagRule → Change Unit
  | [] => throw (.unknownRule name)
  | existing :: rules =>
      if existing.name = name then insertAt position rule
      else insertBefore name rule (position + 1) rules

def register (rule : TagRule) (before : Option Text) : Change Unit := do
  if (← get).names.contains rule.name then throw (.nameTaken rule.name)
  match before with
  | none => push rule
  | some name => insertBefore name rule 0 (← get).rules

end Change

def attempt (registry : Registry) (rule : TagRule) (before : Option Text) :
    Registry × Option RegistryError :=
  match (Change.register rule before).run registry with
  | .ok _ registry => (registry, none)
  | .error error registry => (registry, some error)

end TemplateTree.Registry
