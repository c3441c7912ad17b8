import TemplateTree.Proofs.Step

/-!
# Children one by one

`Scope.foldlM_add_eq_extend` and `Scope.foldlM_add_alternative` say which children an open scope has after
it has received trees in order: the trees themselves, but those behind the alternative of a conditional
belong to that alternative. `Scope.Sound.foldlM_add_error` says when it refuses them.
-/

namespace TemplateTree
namespace Scope

/-- The scope with more children. If it has an alternative, they belong to that. -/
def extend (scope : Scope) (trees : List Tree) : Scope :=
  match scope.alternative with
  | none => { scope with children := trees.reverse ++ scope.children }
  | some (node, children) => { scope with alternative := some (node, trees.reverse ++ children) }

variable {scope scope' : Scope} {trees : List Tree}

theorem node_extend (scope : Scope) (trees : List Tree) : (scope.extend trees).node = scope.node := by
  unfold extend
  split <;> rfl

theorem extend_append (scope : Scope) (first second : List Tree) :
    scope.extend (first ++ second) = (scope.extend first).extend second := by
  unfold extend
  cases scope.alternative <;> simp

theorem extend_of_none (free : scope.alternative = none) (trees : List Tree) :
    scope.extend trees = { scope with children := trees.reverse ++ scope.children } := by
  rw [extend, free]

theorem contents_extend (free : scope.alternative = none) (trees : List Tree) :
    (scope.extend trees).contents = scope.contents ++ trees := by
  have still : (scope.extend trees).alternative = none := by rwa [extend_of_none free]
  rw [contents_none still, contents_none free, extend_of_none free, List.reverse_append,
    List.reverse_reverse]

/-- A scope that is no conditional takes an alternative as it takes any child. -/
def Takes (scope : Scope) (tree : Tree) : Prop :=
  tree.node.kind ≠ .alternative ∨ (scope.node.kind ≠ .conditional ∧ scope.alternative = none)

theorem Takes.extend {tree : Tree} (takes : scope.Takes tree) (trees : List Tree) :
    (scope.extend trees).Takes tree :=
  takes.imp_right fun ⟨plain, free⟩ => ⟨by rwa [node_extend], by rwa [extend_of_none free]⟩

theorem add_eq_extend {tree : Tree} (receives : scope.node.isLeaf = false) (takes : scope.Takes tree) :
    scope.add tree = .ok (scope.extend [tree]) := by
  have notBoth : ¬ (scope.node.kind = .conditional ∧ tree.node.kind = .alternative) :=
    fun both => takes.elim (· both.2) (·.1 both.1)
  rw [add, receives, if_neg Bool.false_ne_true, extend]
  cases found : scope.alternative with
  | none => exact if_neg notBoth
  | some inner =>
      have other : tree.node.kind ≠ .alternative := takes.resolve_right (by simp [found])
      exact if_neg other

theorem foldlM_add_eq_extend (receives : scope.node.isLeaf = false)
    (takes : ∀ tree ∈ trees, scope.Takes tree) : trees.foldlM add scope = .ok (scope.extend trees) := by
  induction trees generalizing scope with
  | nil =>
      unfold extend
      cases scope with
      | mk node children alternative => cases alternative <;> rfl
  | cons tree trees ih =>
      obtain ⟨here, behind⟩ := List.forall_mem_cons.mp takes
      have still : (scope.extend [tree]).node.isLeaf = false := by rw [node_extend, receives]
      rw [List.foldlM_cons, add_eq_extend receives here]
      change trees.foldlM add (scope.extend [tree]) = _
      rw [ih still fun tree member => (behind tree member).extend _, ← extend_append]
      rfl

theorem foldlM_add_alternative {front behind : List Tree} {branch : Tree}
    (receives : scope.node.isLeaf = false) (conditional : scope.node.kind = .conditional)
    (free : scope.alternative = none)
    (alternative : branch.node.kind = .alternative)
    (others : ∀ tree ∈ front ++ behind, tree.node.kind ≠ .alternative) :
    ∃ scope', (front ++ branch :: behind).foldlM add scope = .ok scope' ∧ scope'.node = scope.node ∧
      scope'.contents = scope.contents ++ front ++ [.mk branch.node (branch.children ++ behind)] := by
  obtain ⟨before, after⟩ := List.forall_mem_append.mp others
  have first : front.foldlM add scope = .ok (scope.extend front) :=
    foldlM_add_eq_extend receives fun tree member => .inl (before tree member)
  -- the alternative splits the conditional: what follows is received by its branch
  let parted : Scope :=
    { scope.extend front with alternative := some (branch.node, branch.children.reverse) }
  have second : (scope.extend front).add branch = .ok parted := by
    simp [add, receives, extend_of_none free, free, conditional, alternative, parted]
  have still : parted.node.isLeaf = false := by
    change (scope.extend front).node.isLeaf = false
    rw [node_extend, receives]
  have third : behind.foldlM add parted = .ok (parted.extend behind) :=
    foldlM_add_eq_extend still fun tree member => .inl (after tree member)
  refine ⟨parted.extend behind, ?_, ?_, ?_⟩
  · rw [List.foldlM_append, first]
    change (branch :: behind).foldlM add (scope.extend front) = _
    rw [List.foldlM_cons, second]
    exact third
  · rw [node_extend]
    exact node_extend scope front
  · have contents : parted.extend behind = { scope.extend front with
        alternative := some (branch.node, behind.reverse ++ branch.children.reverse) } := rfl
    rw [contents, contents_some rfl, List.reverse_append, List.reverse_reverse, List.reverse_reverse]
    rw [extend_of_none free, contents_none free, List.reverse_append, List.reverse_reverse]

theorem Sound.foldlM_add_error {error : TreeError} (sound : scope.Sound)
    (failed : trees.foldlM Scope.add scope = .error error) :
    ∃ tree ∈ trees, tree.node.kind = .alternative ∧
      error = .duplicateAlternative tree.node.tagOrName scope.node := by
  induction trees generalizing scope with
  | nil => cases failed
  | cons tree trees ih =>
      rw [List.foldlM_cons] at failed
      rcases bind_eq_error.mp failed with refused | ⟨between, added, failed⟩
      · obtain ⟨-, kind, same⟩ := sound.add_error refused
        exact ⟨tree, List.mem_cons_self, kind, same⟩
      · obtain ⟨other, member, kind, same⟩ := ih (sound.add added) failed
        exact ⟨other, List.mem_cons_of_mem _ member, kind, by rw [same, node_add added]⟩

theorem countP_alternative_le (conditional : scope.node.kind = .conditional)
    (added : trees.foldlM Scope.add scope = .ok scope') :
    trees.countP (·.node.kind = .alternative) + (if scope.alternative.isSome then 1 else 0) ≤ 1 := by
  induction trees generalizing scope with
  | nil =>
      rw [List.countP_nil]
      split <;> decide
  | cons tree trees ih =>
      rw [List.foldlM_cons] at added
      obtain ⟨between, first, rest⟩ := bind_eq_ok.mp added
      have bound := ih (by rw [node_add first, conditional]) rest
      rcases add_cases first with ⟨node, children, found, other, rfl⟩ | ⟨free, -, kind, rfl⟩ |
        ⟨free, other, rfl⟩
      · simpa [other, found] using bound
      · simpa [kind, free] using bound
      · have plain : tree.node.kind ≠ .alternative := fun kind => other ⟨conditional, kind⟩
        simpa [plain, free] using bound

end Scope

end TemplateTree
