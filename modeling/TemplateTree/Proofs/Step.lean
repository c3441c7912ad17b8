import TemplateTree.Builder
import TemplateTree.Proofs.Tour

/-!
# The steps of a builder

`Scope.add_cases` and `Builder.step_cases` say all that one step can do. From them follows what a
step adds to the tour around the open scopes.
-/

namespace TemplateTree

theorem bind_eq_ok {α β ε : Type} {result : Except ε α} {next : α → Except ε β} {value : β} :
    result >>= next = .ok value ↔ ∃ found, result = .ok found ∧ next found = .ok value := by
  cases result with
  | error error => simp [bind, Except.bind]
  | ok found => simp [bind, Except.bind]

theorem bind_eq_error {α β ε : Type} {result : Except ε α} {next : α → Except ε β} {error : ε} :
    result >>= next = .error error ↔
      result = .error error ∨ ∃ found, result = .ok found ∧ next found = .error error := by
  cases result with
  | error error => simp [bind, Except.bind]
  | ok found => simp [bind, Except.bind]

theorem Node.isLeaf_of_opens {node : Node} (opens : node.createsScope = true) : node.isLeaf = false := by
  unfold createsScope at opens
  unfold isLeaf
  cases kind : node.kind <;> simp_all [Kind.createsScope, Kind.isLeaf]

theorem Node.kind_of_opens {node : Node} (opens : node.createsScope = true) :
    node.kind ≠ .alternative := by
  intro kind
  rw [createsScope, kind] at opens
  cases opens

theorem Node.ofFragment_ok {kind : Kind} {fragment : Fragment} {node : Node}
    (made : Node.ofFragment kind fragment = .ok node) :
    node.tag = some fragment.clean ∧ node.closing = none := by
  unfold ofFragment read at made
  cases content : (Node.fresh kind).content.read fragment with
  | error error => simp [content, Except.map] at made
  | ok content' =>
      simp only [content, Except.map, Except.ok.injEq] at made
      rw [← made]
      exact ⟨rfl, rfl⟩

theorem Builder.makeNode_ok {builder : Builder} {fragment : Fragment} {node : Node}
    (made : builder.makeNode fragment = .ok node) :
    fragment.kind ≠ .closeTag ∧ node.tag = some fragment.clean ∧ node.closing = none := by
  unfold makeNode at made
  split at made
  next kind => exact ⟨by simp [kind], Node.ofFragment_ok made⟩
  next kind => exact ⟨by simp [kind], Node.ofFragment_ok made⟩
  next kind =>
    obtain ⟨rule, -, made⟩ := bind_eq_ok.mp made
    exact ⟨by simp [kind], Node.ofFragment_ok made⟩
  all_goals cases made

namespace Scope

def contents (scope : Scope) : List Tree := scope.tree.children

theorem contents_none {scope : Scope} (none : scope.alternative = none) :
    scope.contents = scope.children.reverse := by
  simp [contents, tree, none, Tree.children]

theorem contents_some {scope : Scope} {node : Node} {children : List Tree}
    (some : scope.alternative = some (node, children)) :
    scope.contents = scope.children.reverse ++ [.mk node children.reverse] := by
  simp [contents, tree, some, Tree.children]

theorem tree_eq (scope : Scope) : scope.tree = .mk scope.node scope.contents := by
  unfold contents tree
  cases scope.alternative <;> rfl

theorem close_eq (scope : Scope) (closing : Text) :
    scope.close closing = .mk (scope.node.close closing) scope.contents := by
  unfold close contents tree
  cases scope.alternative <;> rfl

theorem add_cases {scope scope' : Scope} {child : Tree} (added : scope.add child = .ok scope') :
    (∃ node children, scope.alternative = some (node, children) ∧
      child.node.kind ≠ .alternative ∧
      scope' = { scope with alternative := some (node, child :: children) }) ∨
    (scope.alternative = none ∧ scope.node.kind = .conditional ∧ child.node.kind = .alternative ∧
      scope' = { scope with alternative := some (child.node, child.children.reverse) }) ∨
    (scope.alternative = none ∧
      ¬ (scope.node.kind = .conditional ∧ child.node.kind = .alternative) ∧
      scope' = { scope with children := child :: scope.children }) := by
  unfold add at added
  split at added
  · cases added
  · split at added
    next node children alternative =>
      split at added
      · cases added
      next other =>
        exact .inl ⟨node, children, alternative, other, (Except.ok.inj added).symm⟩
    next alternative =>
      split at added
      next both =>
        exact .inr (.inl ⟨alternative, both.1, both.2, (Except.ok.inj added).symm⟩)
      next other =>
        exact .inr (.inr ⟨alternative, other, (Except.ok.inj added).symm⟩)

structure Sound (scope : Scope) : Prop where
  opens : scope.node.createsScope = true
  unclosed : scope.node.closing = none
  alternative : ∀ node children, scope.alternative = some (node, children) →
    scope.node.kind = .conditional ∧ node.kind = .alternative

theorem sound_of_node {node : Node} (opens : node.createsScope = true)
    (unclosed : node.closing = none) : Sound { node := node } :=
  ⟨opens, unclosed, by simp⟩

theorem node_add {scope scope' : Scope} {child : Tree} (added : scope.add child = .ok scope') :
    scope'.node = scope.node := by
  rcases add_cases added with ⟨_, _, _, _, rfl⟩ | ⟨_, _, _, rfl⟩ | ⟨_, _, rfl⟩ <;> rfl

theorem isSome_add {scope scope' : Scope} {child : Tree} (added : scope.add child = .ok scope')
    (isSome : scope'.alternative.isSome) : scope.alternative.isSome ∨
      (scope.node.kind = .conditional ∧ child.node.kind = .alternative) := by
  rcases add_cases added with ⟨_, _, before, _, _⟩ | ⟨_, conditional, kind, _⟩ | ⟨before, _, rfl⟩
  · exact .inl (by rw [before]; rfl)
  · exact .inr ⟨conditional, kind⟩
  · exact .inl isSome

theorem Sound.add_error {scope : Scope} {child : Tree} {error : TreeError} (sound : scope.Sound)
    (failed : scope.add child = .error error) :
    scope.alternative.isSome ∧ child.node.kind = .alternative ∧
      error = .duplicateAlternative child.node.tagOrName scope.node := by
  unfold add at failed
  rw [Node.isLeaf_of_opens sound.opens, if_neg Bool.false_ne_true] at failed
  split at failed
  next node children found =>
    split at failed
    next kind => exact ⟨by rw [found]; rfl, kind, (Except.error.inj failed).symm⟩
    · cases failed
  · split at failed <;> cases failed

theorem Sound.exists_add {scope : Scope} {child : Tree} (sound : scope.Sound)
    (single : scope.alternative.isSome → child.node.kind ≠ .alternative) :
    ∃ scope', scope.add child = .ok scope' := by
  cases added : scope.add child with
  | ok scope' => exact ⟨scope', rfl⟩
  | error error =>
      obtain ⟨isSome, kind, -⟩ := sound.add_error added
      exact absurd kind (single isSome)

theorem Sound.add {scope scope' : Scope} {child : Tree} (sound : scope.Sound)
    (added : scope.add child = .ok scope') : scope'.Sound := by
  refine ⟨node_add added ▸ sound.opens, node_add added ▸ sound.unclosed, ?_⟩
  intro node children found
  rcases add_cases added with ⟨other, _, before, -, rfl⟩ | ⟨-, conditional, kind, rfl⟩ |
    ⟨before, -, rfl⟩
  · obtain ⟨rfl, -⟩ : other = node ∧ _ := by simpa using found
    exact sound.alternative _ _ before
  · obtain ⟨rfl, -⟩ : child.node = node ∧ _ := by simpa using found
    exact ⟨conditional, kind⟩
  · rw [before] at found
    cases found

theorem Sound.kind_close {scope : Scope} (sound : scope.Sound) (closing : Text) :
    (scope.close closing).node.kind ≠ .alternative := by
  have other : scope.node.kind ≠ .alternative := Node.kind_of_opens sound.opens
  rw [close_eq]
  exact other

theorem Sound.visits_contents {scope scope' : Scope} {child : Tree} (sound : scope.Sound)
    (added : scope.add child = .ok scope') :
    Tree.visitsAll scope'.contents = Tree.visitsAll scope.contents ++ child.visits := by
  rcases add_cases added with ⟨node, children, before, -, rfl⟩ | ⟨before, -, -, rfl⟩ |
    ⟨before, -, rfl⟩
  · have stays : node.departure = [] := by
      have kind := (sound.alternative _ _ before).2
      simp [Node.departure, Node.createsScope, kind, Kind.createsScope]
    rw [contents_some before, contents_some rfl]
    simp [Tree.visits, stays]
  · rw [contents_none before, contents_some rfl]
    cases child
    simp [Tree.node, Tree.children]
  · have still : Scope.alternative { scope with children := child :: scope.children } = none :=
      before
    rw [contents_none before, contents_none still]
    simp

end Scope

namespace Builder

variable {builder : Builder} {scopes scopes' : List Scope} {fragment : Fragment}

/-- A step closes the innermost scope, opens a new one, or adds a node to the innermost. -/
theorem step_cases (stepped : builder.step scopes fragment = .ok scopes') :
    (∃ scope parent outer parent', scopes = scope :: parent :: outer ∧
      fragment.kind = .closeTag ∧ builder.checkClose scope.node fragment.clean = .ok () ∧
      parent.add (scope.close fragment.clean) = .ok parent' ∧ scopes' = parent' :: outer) ∨
    (∃ scope outer node, scopes = scope :: outer ∧ builder.makeNode fragment = .ok node ∧
      node.createsScope = true ∧ scopes' = { node := node } :: scope :: outer) ∨
    (∃ scope outer node scope', scopes = scope :: outer ∧ builder.makeNode fragment = .ok node ∧
      node.createsScope = false ∧ scope.add (.mk node []) = .ok scope' ∧
      scopes' = scope' :: outer) := by
  unfold step at stepped
  split at stepped
  · cases stepped
  next scope outer =>
    split at stepped
    next closing =>
      split at stepped
      · cases stepped
      next parent outer =>
        obtain ⟨_, checked, stepped⟩ := bind_eq_ok.mp stepped
        obtain ⟨parent', added, stepped⟩ := bind_eq_ok.mp stepped
        exact .inl ⟨scope, parent, outer, parent', rfl, closing, checked, added,
          (Except.ok.inj stepped).symm⟩
    next =>
      obtain ⟨node, made, stepped⟩ := bind_eq_ok.mp stepped
      cases opens : node.createsScope with
      | true =>
          simp only [opens, if_true] at stepped
          exact .inr (.inl ⟨scope, outer, node, rfl, made, opens, (Except.ok.inj stepped).symm⟩)
      | false =>
          simp only [opens, Bool.false_eq_true, if_false] at stepped
          obtain ⟨scope', added, stepped⟩ := bind_eq_ok.mp stepped
          exact .inr (.inr ⟨scope, outer, node, scope', rfl, made, opens, added,
            (Except.ok.inj stepped).symm⟩)

theorem step_error {error : TreeError} (sound : ∀ scope ∈ scopes, scope.Sound)
    (failed : builder.step scopes fragment = .error error) :
    error = .strayClose ∨
    (fragment.kind = .closeTag ∧
      ∃ scope ∈ scopes, builder.checkClose scope.node fragment.clean = .error error) ∨
    (fragment.kind ≠ .closeTag ∧ builder.makeNode fragment = .error error) ∨
    ∃ node, ∃ scope ∈ scopes, builder.makeNode fragment = .ok node ∧ node.kind = .alternative ∧
      scope.alternative.isSome ∧ error = .duplicateAlternative node.tagOrName scope.node := by
  unfold step at failed
  split at failed
  · exact .inl (Except.error.inj failed).symm
  next scope outer =>
    split at failed
    next closing =>
      split at failed
      · exact .inl (Except.error.inj failed).symm
      next parent outer =>
        rcases bind_eq_error.mp failed with refused | ⟨_, -, failed⟩
        · exact .inr (.inl ⟨closing, scope, List.mem_cons_self, refused⟩)
        rcases bind_eq_error.mp failed with refused | ⟨_, -, failed⟩
        · have other := (sound scope List.mem_cons_self).kind_close fragment.clean
          have parentSound := sound parent (List.mem_cons_of_mem _ List.mem_cons_self)
          exact absurd (parentSound.add_error refused).2.1 other
        · cases failed
    next other =>
      rcases bind_eq_error.mp failed with refused | ⟨node, made, failed⟩
      · exact .inr (.inr (.inl ⟨other, refused⟩))
      split at failed
      · cases failed
      rcases bind_eq_error.mp failed with refused | ⟨_, -, failed⟩
      · obtain ⟨isSome, kind, same⟩ := (sound scope List.mem_cons_self).add_error refused
        exact .inr (.inr (.inr ⟨node, scope, List.mem_cons_self, made, kind, isSome, same⟩))
      · cases failed

theorem step_ne_nil (stepped : builder.step scopes fragment = .ok scopes') : scopes' ≠ [] := by
  rcases step_cases stepped with ⟨_, _, _, _, -, -, -, -, rfl⟩ | ⟨_, _, _, -, -, -, rfl⟩ |
    ⟨_, _, _, _, -, -, -, -, rfl⟩ <;> exact List.cons_ne_nil _ _

theorem step_of_opening {scope : Scope} {outer : List Scope} {node : Node}
    (made : builder.makeNode fragment = .ok node) (opens : node.createsScope = true) :
    builder.step (scope :: outer) fragment = .ok ({ node := node } :: scope :: outer) := by
  simp [step, (makeNode_ok made).1, made, opens, bind, Except.bind, pure, Except.pure]

theorem step_of_plain {scope scope' : Scope} {outer : List Scope} {node : Node}
    (made : builder.makeNode fragment = .ok node) (plain : node.createsScope = false)
    (added : scope.add (.mk node []) = .ok scope') :
    builder.step (scope :: outer) fragment = .ok (scope' :: outer) := by
  simp [step, (makeNode_ok made).1, made, plain, added, bind, Except.bind, pure, Except.pure]

theorem step_of_close {scope parent parent' : Scope} {outer : List Scope}
    (closes : fragment.kind = .closeTag)
    (checked : builder.checkClose scope.node fragment.clean = .ok ())
    (added : parent.add (scope.close fragment.clean) = .ok parent') :
    builder.step (scope :: parent :: outer) fragment = .ok (parent' :: outer) := by
  simp [step, closes, checked, added, bind, Except.bind, pure, Except.pure]

theorem checkClose_of_permissive (permissive : builder.strict = false) (node : Node) (closing : Text) :
    builder.checkClose node closing = .ok () := by
  rw [checkClose, permissive, if_neg Bool.false_ne_true]

def Visits (builder : Builder) (fragment : Fragment) : Visit → Prop
  | .enter node => builder.makeNode fragment = .ok node
  | .leave closing => fragment.kind = .closeTag ∧ closing = some fragment.clean

def stackVisits : List Scope → List Visit
  | [] => []
  | scope :: outer => stackVisits outer ++ .enter scope.node :: Tree.visitsAll scope.contents

theorem sound_step (sound : ∀ scope ∈ scopes, scope.Sound)
    (stepped : builder.step scopes fragment = .ok scopes') : ∀ scope ∈ scopes', scope.Sound := by
  rcases step_cases stepped with ⟨scope, parent, outer, parent', rfl, -, -, added, rfl⟩ |
    ⟨scope, outer, node, rfl, made, opens, rfl⟩ |
    ⟨scope, outer, node, scope', rfl, -, -, added, rfl⟩
  · simp only [List.forall_mem_cons] at sound ⊢
    exact ⟨sound.2.1.add added, sound.2.2⟩
  · rw [List.forall_mem_cons]
    exact ⟨Scope.sound_of_node opens (makeNode_ok made).2.2, sound⟩
  · simp only [List.forall_mem_cons] at sound ⊢
    exact ⟨sound.1.add added, sound.2⟩

theorem visits_step (sound : ∀ scope ∈ scopes, scope.Sound)
    (stepped : builder.step scopes fragment = .ok scopes') :
    ∃ visit, builder.Visits fragment visit ∧ stackVisits scopes' = stackVisits scopes ++ [visit] := by
  rcases step_cases stepped with ⟨scope, parent, outer, parent', rfl, closing, -, added, rfl⟩ |
    ⟨scope, outer, node, rfl, made, opens, rfl⟩ |
    ⟨scope, outer, node, scope', rfl, made, opens, added, rfl⟩
  · simp only [List.forall_mem_cons] at sound
    have departs : (scope.node.close fragment.clean).departure = [.leave (some fragment.clean)] :=
      if_pos sound.1.opens
    refine ⟨.leave (some fragment.clean), ⟨closing, rfl⟩, ?_⟩
    simp only [stackVisits, Scope.node_add added, sound.2.1.visits_contents added, Scope.close_eq,
      Tree.visits, departs, Node.opened_close sound.1.opens sound.1.unclosed]
    simp
  · refine ⟨.enter node, made, ?_⟩
    simp [stackVisits, Scope.contents_none, Tree.visitsAll]
  · simp only [List.forall_mem_cons] at sound
    have stays : node.departure = [] := by simp [Node.departure, opens]
    have same : node.opened = node := by simp [Node.opened, opens]
    refine ⟨.enter node, made, ?_⟩
    simp [stackVisits, Scope.node_add added, sound.1.visits_contents added, Tree.visits, stays, same,
      Tree.visitsAll]

end Builder

end TemplateTree
