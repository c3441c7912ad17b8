import Mathlib.Data.List.Basic
import TemplateTree.Draft

/-!
# What linking changes

A node of a graph has its data, its children, and maybe an alternative, to which its children go.
`Graph.Adds` says what these three become when a new node is made a child.
-/

namespace TemplateTree
namespace Graph

variable {graph graph' : Graph} {id other : NodeId} {cell : Cell} {node : Node}

theorem lt_size_of_cell? (found : graph.cell? id = some cell) : id < graph.size :=
  (List.getElem?_eq_some_iff.mp found).1

theorem cell?_size (graph : Graph) : graph.cell? graph.size = none :=
  List.getElem?_eq_none (Nat.le_refl _)

theorem exists_cell? (found : graph.node? id = some node) :
    ∃ cell, graph.cell? id = some cell ∧ cell.node = node :=
  Option.map_eq_some_iff.mp found

theorem node?_of_cell? (found : graph.cell? id = some cell) : graph.node? id = some cell.node := by
  rw [node?, found, Option.map_some]

theorem lt_size_of_node? (found : graph.node? id = some node) : id < graph.size := by
  obtain ⟨cell, here, -⟩ := exists_cell? found
  exact lt_size_of_cell? here

theorem cell?_replace {old : Cell} (found : graph.cell? id = some old) (cell : Cell)
    (other : NodeId) :
    (graph.replace id cell).cell? other = if other = id then some cell else graph.cell? other := by
  unfold replace cell?
  by_cases same : other = id
  · rw [if_pos same, same, List.getElem?_set_self (lt_size_of_cell? found)]
  · rw [if_neg same, List.getElem?_set_ne (Ne.symm same)]

theorem cell?_create (graph : Graph) (node : Node) (other : NodeId) :
    (graph.create node).1.cell? other =
      if other = graph.size then some { node := node } else graph.cell? other := by
  unfold create cell?
  by_cases last : other = graph.size
  · rw [if_pos last, last]
    exact List.getElem?_concat_length
  · rw [if_neg last]
    by_cases inside : other < graph.cells.length
    · exact List.getElem?_append_left inside
    · have beyond : graph.cells.length < other :=
        Nat.lt_of_le_of_ne (Nat.le_of_not_lt inside) (Ne.symm last)
      have concat : (graph.cells ++ [({ node := node } : Cell)]).length ≤ other := by
        rw [List.length_append]
        exact beyond
      rw [List.getElem?_eq_none concat, List.getElem?_eq_none (Nat.le_of_lt beyond)]

/-! ## Closing -/

theorem cell?_close (closing : Text) (id other : NodeId) :
    (graph.close id closing).cell? other = (graph.cell? other).map fun cell =>
      if other = id then { cell with node := cell.node.close closing } else cell := by
  unfold close
  cases found : graph.cell? id with
  | none =>
      by_cases same : other = id
      · rw [same, found, Option.map_none]
      · simp [same]
  | some cell =>
      rw [cell?_replace found]
      by_cases same : other = id
      · rw [if_pos same, same, found, Option.map_some, if_pos rfl]
      · simp [same]

theorem node?_close (closing : Text) (id other : NodeId) :
    (graph.close id closing).node? other = (graph.node? other).map fun node =>
      if other = id then node.close closing else node := by
  unfold node?
  rw [cell?_close, Option.map_map, Option.map_map]
  congr 1
  funext cell
  by_cases same : other = id <;> simp [same]

@[simp] theorem children_close (closing : Text) (id other : NodeId) :
    (graph.close id closing).children other = graph.children other := by
  unfold children
  rw [cell?_close]
  cases graph.cell? other with
  | none => rfl
  | some cell => by_cases same : other = id <;> simp [same]

@[simp] theorem alternative?_close (closing : Text) (id other : NodeId) :
    (graph.close id closing).alternative? other = graph.alternative? other := by
  unfold alternative?
  rw [cell?_close]
  cases graph.cell? other with
  | none => rfl
  | some cell => by_cases same : other = id <;> simp [same]

@[simp] theorem receiver_close (closing : Text) (id other : NodeId) :
    (graph.close id closing).receiver other = graph.receiver other := by
  rw [receiver, alternative?_close, receiver]

/-! ## Adding children -/

theorem alternative?_of_cell? (found : graph.cell? id = some cell) :
    graph.alternative? id = cell.alternative := by
  rw [alternative?, found, Option.bind_some]

theorem receiver_of_none (missing : graph.alternative? id = none) : graph.receiver id = id := by
  rw [receiver, missing, Option.getD_none]

theorem receiver_of_some (found : graph.alternative? id = some other) : graph.receiver id = other := by
  rw [receiver, found, Option.getD_some]

theorem children_of_cell? (found : graph.cell? id = some cell) : graph.children id = cell.children := by
  rw [children, found, Option.elim_some]

theorem views_replace {old : Cell} (found : graph.cell? id = some old) (cell : Cell)
    (other : NodeId) :
    (graph.replace id cell).node? other = (if other = id then some cell.node else graph.node? other) ∧
    (graph.replace id cell).children other = (if other = id then cell.children else graph.children other) ∧
    (graph.replace id cell).alternative? other =
      (if other = id then cell.alternative else graph.alternative? other) := by
  unfold node? children alternative?
  rw [cell?_replace found]
  by_cases same : other = id <;> simp [same]

theorem views_create (graph : Graph) (node : Node) (other : NodeId) :
    (graph.create node).1.node? other =
      (if other = graph.size then some node else graph.node? other) ∧
    (graph.create node).1.children other = graph.children other ∧
    (graph.create node).1.alternative? other = graph.alternative? other := by
  unfold node? children alternative?
  rw [cell?_create]
  by_cases last : other = graph.size
  · rw [last, cell?_size]
    simp
  · simp [last]

theorem views_append (found : graph.node? id = some node) (child other : NodeId) :
    (graph.append id child).node? other = graph.node? other ∧
    (graph.append id child).children other =
      (if other = id then graph.children id ++ [child] else graph.children other) ∧
    (graph.append id child).alternative? other = graph.alternative? other := by
  obtain ⟨cell, here, rfl⟩ := exists_cell? found
  have appended : graph.append id child =
      graph.replace id { cell with children := cell.children ++ [child] } := by
    rw [append, here]
  obtain ⟨nodes, children, alternatives⟩ :=
    views_replace here { cell with children := cell.children ++ [child] } other
  rw [appended, nodes, children, alternatives]
  by_cases same : other = id
  · simp [same, found, children_of_cell? here, alternative?_of_cell? here]
  · simp [same]

structure Adds (graph : Graph) (id : NodeId) (node : Node) (graph' : Graph) : Prop where
  nodes : ∀ other, graph'.node? other = if other = graph.size then some node else graph.node? other
  children : ∀ other, graph'.children other =
    if other = graph.receiver id then graph.children other ++ [graph.size] else graph.children other
  alternatives : (node.kind = .alternative ∧
      (∃ parent, graph.node? id = some parent ∧ parent.kind = .conditional) ∧
      ∀ other, graph'.alternative? other =
        if other = id then some graph.size else graph.alternative? other) ∨
    ∀ other, graph'.alternative? other = graph.alternative? other

theorem Adds.new (adds : graph.Adds id node graph') : graph'.node? graph.size = some node := by
  rw [adds.nodes, if_pos rfl]

theorem Adds.old {before : Node} (adds : graph.Adds id node graph')
    (found : graph.node? other = some before) : graph'.node? other = some before := by
  rw [adds.nodes, if_neg (Nat.ne_of_lt (lt_size_of_node? found)), found]

theorem Adds.cases {after : Node} (adds : graph.Adds id node graph')
    (found : graph'.node? other = some after) :
    (other = graph.size ∧ after = node) ∨ graph.node? other = some after := by
  rw [adds.nodes] at found
  by_cases same : other = graph.size
  · rw [if_pos same] at found
    exact .inl ⟨same, (Option.some.inj found).symm⟩
  · rw [if_neg same] at found
    exact .inr found

theorem Adds.receiver_eq (same : graph'.alternative? other = graph.alternative? other) :
    graph'.receiver other = graph.receiver other := by
  rw [receiver, same, receiver]

theorem adds_append {host : Node} (hosts : graph.node? (graph.receiver id) = some host) (node : Node) :
    graph.Adds id node ((graph.create node).1.append (graph.receiver id) graph.size) := by
  have created := views_create graph node
  have inside : graph.receiver id ≠ graph.size := Nat.ne_of_lt (lt_size_of_node? hosts)
  have found : (graph.create node).1.node? (graph.receiver id) = some host := by
    rw [(created _).1, if_neg inside, hosts]
  have views := views_append found graph.size
  refine ⟨fun other => ?_, fun other => ?_, .inr fun other => ?_⟩
  · rw [(views other).1, (created other).1]
  · rw [(views other).2.1, (created other).2.1, (created _).2.1]
    by_cases receives : other = graph.receiver id
    · rw [if_pos receives, if_pos receives, receives]
    · rw [if_neg receives, if_neg receives]
  · rw [(views other).2.2, (created other).2.2]

theorem adds_replace (found : graph.cell? id = some cell) (conditional : cell.node.kind = .conditional)
    (missing : cell.alternative = none) (alternative : node.kind = .alternative) :
    graph.Adds id node ((graph.create node).1.replace id
      { cell with children := cell.children ++ [graph.size], alternative := some graph.size }) := by
  have created := views_create graph node
  have inside : id ≠ graph.size := Nat.ne_of_lt (lt_size_of_cell? found)
  have own : graph.receiver id = id := by
    apply receiver_of_none
    rw [alternative?_of_cell? found, missing]
  have here : (graph.create node).1.cell? id = some cell := by
    rw [cell?_create, if_neg inside, found]
  have views := views_replace here
    { cell with children := cell.children ++ [graph.size], alternative := some graph.size }
  refine ⟨fun other => ?_, fun other => ?_,
    .inl ⟨alternative, ⟨cell.node, node?_of_cell? found, conditional⟩, fun other => ?_⟩⟩
  · rw [(views other).1, (created other).1]
    by_cases same : other = id
    · rw [if_pos same, same, if_neg inside, node?_of_cell? found]
    · rw [if_neg same]
  · rw [(views other).2.1, (created other).2.1, own]
    by_cases same : other = id
    · rw [if_pos same, if_pos same, same, children_of_cell? found]
    · rw [if_neg same, if_neg same]
  · rw [(views other).2.2, (created other).2.2]

theorem adds_of_addChild {parent : Node} (found : graph.node? id = some parent)
    (settled : graph.alternative? id = none ∨ parent.kind = .conditional ∧
      ∃ host, graph.node? (graph.receiver id) = some host)
    (added : (graph.create node).1.addChild id graph.size = .ok graph') :
    graph.Adds id node graph' := by
  obtain ⟨cell, here, rfl⟩ := exists_cell? found
  have parentCell : (graph.create node).1.cell? id = some cell := by
    rw [cell?_create, if_neg (Nat.ne_of_lt (lt_size_of_cell? here)), here]
  have childCell : (graph.create node).1.cell? graph.size = some { node := node } := by
    rw [cell?_create, if_pos rfl]
  have hosts : ∃ host, graph.node? (graph.receiver id) = some host := by
    rcases settled with missing | ⟨-, hosts⟩
    · exact ⟨cell.node, by rw [receiver_of_none missing, found]⟩
    · exact hosts
  obtain ⟨host, hosts⟩ := hosts
  unfold addChild at added
  rw [parentCell, childCell] at added
  dsimp only at added
  split at added
  · cases added
  split at added
  next plain =>
    obtain rfl := Except.ok.inj added
    have own : graph.receiver id = id := by
      rcases settled with missing | ⟨conditional, -⟩
      · exact receiver_of_none missing
      · exact absurd conditional plain
    have adds := adds_append hosts node
    rwa [own] at adds
  next conditional =>
    rw [not_not] at conditional
    -- only an alternative changes where the children of a conditional go
    split at added
    next alternative =>
      split at added
      · cases added
      next missing =>
        rw [Bool.not_eq_true, Option.isSome_eq_false_iff, Option.isNone_iff_eq_none] at missing
        obtain rfl := Except.ok.inj added
        exact adds_replace here conditional missing alternative
    next plain =>
      obtain rfl := Except.ok.inj added
      have adds := adds_append hosts node
      rwa [receiver, alternative?_of_cell? here] at adds

end Graph
end TemplateTree
