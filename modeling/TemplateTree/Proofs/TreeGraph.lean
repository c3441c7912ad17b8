import TemplateTree.Proofs.Numbering
import TemplateTree.Proofs.Traversal

/-!
# The graph of a tree

The numbers of its nodes ascend, so it has no cycles, and its listing is that of the tree.
-/

namespace TemplateTree

namespace Tree

variable {cell : Cell} {graph : Graph}

theorem le_of_mem_numbers {first : Nat} {trees : List Tree} :
    ∀ id ∈ numbers first trees, first ≤ id := by
  induction trees generalizing first with
  | nil => exact List.forall_mem_nil _
  | cons tree trees ih =>
      refine List.forall_mem_cons.mpr ⟨Nat.le_refl first, fun id member => ?_⟩
      exact Nat.le_trans (Nat.le_add_right first tree.size) (ih id member)

mutual

theorem ascends_cells (first : Nat) (tree : Tree) (place : Nat)
    (found : (tree.cells first)[place]? = some cell) : ∀ child ∈ cell.children, first + place < child := by
  cases tree with
  | mk node children =>
      rw [cells] at found
      cases place with
      | zero =>
          obtain rfl := Option.some.inj found
          exact fun child member => le_of_mem_numbers child member
      | succ place =>
          rw [List.getElem?_cons_succ] at found
          have below := ascends_cellsAll (first + 1) children place found
          rwa [Nat.add_right_comm] at below

theorem ascends_cellsAll (first : Nat) (trees : List Tree) (place : Nat)
    (found : (cellsAll first trees)[place]? = some cell) :
    ∀ child ∈ cell.children, first + place < child := by
  cases trees with
  | nil => cases found
  | cons tree trees =>
      rw [cellsAll] at found
      by_cases here : place < tree.size
      · rw [List.getElem?_append_left (by rwa [length_cells])] at found
        exact ascends_cells first tree place found
      · have beyond := Nat.le_of_not_lt here
        rw [List.getElem?_append_right (by rwa [length_cells]), length_cells] at found
        have behind := ascends_cellsAll (first + tree.size) trees (place - tree.size) found
        rwa [Nat.add_assoc, Nat.add_sub_cancel' beyond] at behind

end

mutual

theorem lines_cells (acyclic : graph.Acyclic) (front back : List Cell) (tree : Tree) (depth : Int)
    (placed : graph.cells = front ++ (tree.cells front.length ++ back)) :
    graph.lines front.length depth = tree.lines depth := by
  cases tree with
  | mk node children =>
      obtain ⟨cell, split, own, numbered⟩ : ∃ cell,
          (mk node children).cells front.length = cell :: cellsAll (front.length + 1) children ∧
            cell.node = node ∧ cell.children = numbers (front.length + 1) children :=
        ⟨_, by rw [cells], rfl, rfl⟩
      rw [split] at placed
      have found : graph.cell? front.length = some cell := by
        rw [Graph.cell?, placed]
        exact Graph.cell?_middle front cell _
      rw [List.cons_append, List.append_cons] at placed
      have length : (front ++ [cell]).length = front.length + 1 := by simp
      have below := lines_cellsAll acyclic _ back children (depth + 1) (by rw [length, placed])
      rw [length] at below
      rw [acyclic.lines_eq, lines, Graph.lineAt, found, Graph.children_of_cell? found, numbered, below, ← own]
      rfl

theorem lines_cellsAll (acyclic : graph.Acyclic) (front back : List Cell) (trees : List Tree) (depth : Int)
    (placed : graph.cells = front ++ (cellsAll front.length trees ++ back)) :
    (numbers front.length trees).flatMap (graph.lines · depth) = linesAll depth trees := by
  cases trees with
  | nil => rfl
  | cons tree trees =>
      rw [cellsAll, List.append_assoc] at placed
      have here := lines_cells acyclic front _ tree depth placed
      rw [← List.append_assoc] at placed
      have length : (front ++ tree.cells front.length).length = front.length + tree.size := by
        rw [List.length_append, length_cells]
      have behind := lines_cellsAll acyclic _ back trees depth (by rw [length, placed])
      rw [length] at behind
      rw [numbers, List.flatMap_cons, here, behind, linesAll]

end

end Tree

theorem Graph.acyclic_ofTree (tree : Tree) : (ofTree tree).Acyclic := by
  apply acyclic_of_ascends
  intro id child member
  obtain ⟨cell, found⟩ : ∃ cell, (ofTree tree).cell? id = some cell :=
    ⟨_, List.getElem?_eq_getElem (lt_size_of_children member)⟩
  have ascends := Tree.ascends_cells 0 tree id found
  rw [children_of_cell? found] at member
  rw [Nat.zero_add] at ascends
  exact ascends child member

theorem Graph.listing_ofTree (tree : Tree) (depth : Int) :
    (ofTree tree).listing Draft.root depth = tree.listing depth := by
  have placed : (ofTree tree).cells = [] ++ (tree.cells 0 ++ []) := (List.append_nil _).symm
  exact congrArg _ (Tree.lines_cells (acyclic_ofTree tree) [] [] tree depth placed)

end TemplateTree
