import TemplateTree.Yaml.Problem

/-!
Results that are made level by level: what stands directly in a collection is made before what
stands deeper in it, so of two problems the one on the outer level counts.
-/
namespace TemplateTree.Yaml

abbrev Leveled (α : Type) := Except (Nat × Problem) α

/-- Two results. Of two problems the one on the outer level counts, and on one level the first. -/
def Leveled.both {α β : Type} (first : Leveled α) (second : Leveled β) : Leveled (α × β) :=
  match first, second with
  | .ok first, .ok second => .ok (first, second)
  | .error problem, .ok _ => .error problem
  | .ok _, .error problem => .error problem
  | .error first, .error second => .error (if second.1 < first.1 then second else first)

def Leveled.all {α : Type} : List (Leveled α) → Leveled (List α)
  | [] => .ok []
  | first :: rest => (first.both (all rest)).map fun both => both.1 :: both.2

end TemplateTree.Yaml
