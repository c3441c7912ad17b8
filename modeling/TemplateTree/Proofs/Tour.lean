import TemplateTree.Tree

/-!
# The tour around a tree

The tour enters a node, goes around its children in order, and leaves the node if it creates a
scope. It meets the nodes in the order of a walk.
-/

namespace TemplateTree

def Node.opened (node : Node) : Node :=
  if node.createsScope then { node with closing := none } else node

@[simp] theorem Node.kind_opened (node : Node) : node.opened.kind = node.kind := by
  unfold opened
  split <;> rfl

@[simp] theorem Node.tag_opened (node : Node) : node.opened.tag = node.tag := by
  unfold opened
  split <;> rfl

@[simp] theorem Node.createsScope_opened (node : Node) :
    node.opened.createsScope = node.createsScope :=
  congrArg Kind.createsScope node.kind_opened

theorem Node.opened_close {node : Node} (opens : node.createsScope = true)
    (unclosed : node.closing = none) (closing : Text) : (node.close closing).opened = node := by
  have still : (node.close closing).createsScope = true := opens
  rw [opened, if_pos still, close, ← unclosed]

inductive Visit where
  | enter (node : Node)
  | leave (closing : Option Text)

def Visit.entered? : Visit → Option Node
  | enter node => some node
  | leave _ => none

def Node.departure (node : Node) : List Visit :=
  if node.createsScope then [.leave node.closing] else []

@[simp] theorem Node.filterMap_departure (node : Node) :
    node.departure.filterMap Visit.entered? = [] := by
  unfold departure
  split <;> rfl

namespace Tree

mutual

def visits : Tree → List Visit
  | mk node children => .enter node.opened :: (visitsAll children ++ node.departure)

def visitsAll : List Tree → List Visit
  | [] => []
  | tree :: trees => visits tree ++ visitsAll trees

end

@[simp] theorem visitsAll_append (first second : List Tree) :
    visitsAll (first ++ second) = visitsAll first ++ visitsAll second := by
  induction first with
  | nil => rfl
  | cons tree trees ih => simp only [List.cons_append, visitsAll, ih, List.append_assoc]

@[simp] theorem walkAll_append (first second : List Tree) :
    walkAll (first ++ second) = walkAll first ++ walkAll second := by
  induction first with
  | nil => rfl
  | cons tree trees ih => simp only [List.cons_append, walkAll, ih, List.append_assoc]

@[simp] theorem walkAll_singleton (tree : Tree) : walkAll [tree] = tree.walk := by
  simp [walkAll]

@[simp] theorem visitsAll_singleton (tree : Tree) : visitsAll [tree] = tree.visits := by
  simp [visitsAll]

mutual

theorem entered_visits (tree : Tree) :
    tree.visits.filterMap Visit.entered? = tree.walk.map (·.node.opened) := by
  cases tree with
  | mk node children =>
      simp [visits, walk, Visit.entered?, entered_visitsAll children, Tree.node]

theorem entered_visitsAll (trees : List Tree) :
    (visitsAll trees).filterMap Visit.entered? = (walkAll trees).map (·.node.opened) := by
  cases trees with
  | nil => rfl
  | cons tree trees =>
      simp [visitsAll, walkAll, entered_visits tree, entered_visitsAll trees]

end

mutual

theorem leave_mem_visits {tree inner : Tree} (member : inner ∈ tree.walk)
    (opens : inner.node.createsScope = true) : .leave inner.node.closing ∈ tree.visits := by
  cases tree with
  | mk node children =>
      rcases List.mem_cons.mp member with rfl | member
      · have departs : node.departure = [.leave node.closing] := if_pos opens
        simp [visits, departs, Tree.node]
      · have below := leave_mem_visitsAll member opens
        simp [visits, below]

theorem leave_mem_visitsAll {trees : List Tree} {inner : Tree} (member : inner ∈ walkAll trees)
    (opens : inner.node.createsScope = true) : .leave inner.node.closing ∈ visitsAll trees := by
  cases trees with
  | nil => simp [walkAll] at member
  | cons tree trees =>
      rcases List.mem_append.mp member with member | member
      · exact List.mem_append_left _ (leave_mem_visits member opens)
      · exact List.mem_append_right _ (leave_mem_visitsAll member opens)

end

end Tree

end TemplateTree
