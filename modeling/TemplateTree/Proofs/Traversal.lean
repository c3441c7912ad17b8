import Mathlib.Algebra.GroupWithZero.Nat
import Mathlib.Algebra.Order.BigOperators.Group.List
import Mathlib.Algebra.Order.Group.Nat
import Mathlib.Data.List.Perm.Subperm
import Mathlib.Logic.Relation
import TemplateTree.Proofs.Making
import TemplateTree.Proofs.Written

/-!
# Traversals of graphs without cycles

The traversals keep a list of what is waiting and count their steps. Without cycles the steps are enough,
and each traversal is what a recursion along the children gives, also where nodes are shared.
-/

namespace TemplateTree

/-- Each item is followed by what it asks for, ahead of what is waiting. -/
def explore {α : Type} (next : α → List α) : Nat → List α → List α
  | 0, _ => []
  | _ + 1, [] => []
  | steps + 1, item :: waiting => item :: explore next steps (next item ++ waiting)

section Explore

variable {α : Type} {next : α → List α} {weight : α → Nat}

theorem explore_append (weighs : ∀ item, weight item = 1 + ((next item).map weight).sum)
    (front back : List α) :
    explore next ((front ++ back).map weight).sum (front ++ back) =
      explore next (front.map weight).sum front ++ explore next (back.map weight).sum back := by
  generalize size : (front.map weight).sum = n
  induction n using Nat.strong_induction_on generalizing front with
  | _ n ih =>
      cases front with
      | nil =>
          obtain rfl : 0 = n := size
          rfl
      | cons item front =>
          -- one step trades an item for what it asks for, which weighs one less
          have less : ((next item ++ front).map weight).sum + 1 = n := by
            simp only [← size, List.map_append, List.map_cons, List.sum_append, List.sum_cons, weighs item]
            omega
          have both : ((item :: front ++ back).map weight).sum =
              ((next item ++ front ++ back).map weight).sum + 1 := by
            simp only [List.cons_append, List.map_append, List.map_cons, List.sum_append, List.sum_cons,
              weighs item]
            omega
          have behind := ih _ (Nat.lt_of_succ_le (Nat.le_of_eq less)) (next item ++ front) rfl
          rw [both, List.cons_append, explore, ← List.append_assoc, behind, ← less, explore,
            List.cons_append]

theorem explore_flatMap (weighs : ∀ item, weight item = 1 + ((next item).map weight).sum)
    (items : List α) : explore next (items.map weight).sum items =
      items.flatMap fun item => explore next (weight item) [item] := by
  induction items with
  | nil => rfl
  | cons item items ih =>
      have split := explore_append weighs [item] items
      rw [ih] at split
      simpa using split

theorem explore_single (weighs : ∀ item, weight item = 1 + ((next item).map weight).sum) (item : α) :
    explore next (weight item) [item] =
      item :: (next item).flatMap fun item => explore next (weight item) [item] := by
  rw [weighs, Nat.add_comm, explore, List.append_nil, explore_flatMap weighs]

end Explore

theorem Text.joined_flatMap {α : Type} {mark first : Text} {items : List α} {lines : α → List Text}
    (filled : ∀ item ∈ items, lines item ≠ []) : joined mark (first :: items.flatMap lines) =
      joined mark (first :: items.map fun item => joined mark (lines item)) := by
  rw [joined_cons, joined_cons, List.flatMap_assoc, List.flatMap_map]
  congr 1
  refine List.flatMap_congr fun item member => ?_
  cases written : lines item with
  | nil => exact absurd written (filled item member)
  | cons line rest => rw [List.flatMap_cons, joined_cons, List.append_assoc]

namespace Graph

variable {graph : Graph} {id : NodeId} {length : Nat}

def HasChild (graph : Graph) (id child : NodeId) : Prop := child ∈ graph.children id

def Acyclic (graph : Graph) : Prop := ∀ id, ¬ Relation.TransGen graph.HasChild id id

/-! ## Paths -/

def Deep (graph : Graph) : Nat → NodeId → Prop
  | 0, _ => True
  | length + 1, id => ∃ child ∈ graph.children id, graph.Deep length child

theorem acyclic_of_ascends (ascends : ∀ id, ∀ child ∈ graph.children id, id < child) : graph.Acyclic := by
  intro id cycle
  have less {other : NodeId} (path : Relation.TransGen graph.HasChild id other) : id < other := by
    induction path with
    | single member => exact ascends id _ member
    | tail _ member less => exact Nat.lt_trans less (ascends _ _ member)
  exact Nat.lt_irrefl id (less cycle)

theorem lt_size_of_children {child : NodeId} (member : child ∈ graph.children id) : id < graph.size := by
  unfold children at member
  cases found : graph.cell? id with
  | none =>
      rw [found] at member
      cases member
  | some cell => exact lt_size_of_cell? found

theorem Acyclic.exists_path (acyclic : graph.Acyclic) (deep : graph.Deep length id) :
    ∃ path : List NodeId, path.length = length ∧ path.Nodup ∧
      ∀ other ∈ path, other < graph.size ∧ Relation.ReflTransGen graph.HasChild id other := by
  induction length generalizing id with
  | zero => exact ⟨[], rfl, .nil, List.forall_mem_nil _⟩
  | succ length ih =>
      obtain ⟨child, member, deep⟩ := deep
      obtain ⟨path, rfl, nodup, below⟩ := ih deep
      -- a node that comes again on its own path would close a cycle
      refine ⟨id :: path, rfl, List.nodup_cons.mpr ⟨fun again => ?_, nodup⟩,
        List.forall_mem_cons.mpr ⟨⟨lt_size_of_children member, .refl⟩, fun other inPath => ?_⟩⟩
      · exact acyclic id (.head' member (below id again).2)
      · exact ⟨(below other inPath).1, .head member (below other inPath).2⟩

theorem Acyclic.not_deep (acyclic : graph.Acyclic) (id : NodeId) : ¬ graph.Deep (graph.size + 1) id := by
  intro deep
  obtain ⟨path, length, nodup, below⟩ := acyclic.exists_path deep
  have inside : path ⊆ List.range graph.size := fun other member => List.mem_range.mpr (below other member).1
  have bound := (List.subperm_of_subset nodup inside).length_le
  rw [length, List.length_range] at bound
  exact Nat.not_succ_le_self _ bound

/-! ## Recursion along the children -/

section Fold

variable {α : Type} {combine : NodeId → List α → α}

/-- Combines a node with what its children give, along paths of at most the given length. -/
def foldTo (graph : Graph) (combine : NodeId → List α → α) : Nat → NodeId → α
  | 0, id => combine id []
  | depth + 1, id => combine id ((graph.children id).map (graph.foldTo combine depth))

theorem foldTo_succ {depth : Nat} (shallow : ¬ graph.Deep (depth + 1) id) :
    graph.foldTo combine (depth + 1) id = graph.foldTo combine depth id := by
  induction depth generalizing id with
  | zero =>
      have leaf : graph.children id = [] :=
        List.eq_nil_iff_forall_not_mem.mpr fun child member => shallow ⟨child, member, trivial⟩
      rw [foldTo, foldTo, leaf, List.map_nil]
  | succ depth ih =>
      have same : (graph.children id).map (graph.foldTo combine (depth + 1)) =
          (graph.children id).map (graph.foldTo combine depth) :=
        List.map_congr_left fun child member => ih fun deep => shallow ⟨child, member, deep⟩
      rw [foldTo, same, foldTo]

def fold (graph : Graph) (combine : NodeId → List α → α) : NodeId → α := graph.foldTo combine graph.size

theorem Acyclic.fold_eq (acyclic : graph.Acyclic) (combine : NodeId → List α → α) (id : NodeId) :
    graph.fold combine id = combine id ((graph.children id).map (graph.fold combine)) := by
  rw [fold, ← foldTo_succ (acyclic.not_deep id), foldTo]

end Fold

theorem visits_eq (graph : Graph) (depth : Nat) :
    graph.visits depth = graph.foldTo (fun _ parts => 1 + parts.sum) depth := by
  funext id
  induction depth generalizing id with
  | zero => rfl
  | succ depth ih =>
      have below : (graph.children id).map (graph.visits depth) =
          (graph.children id).map (graph.foldTo (fun _ parts => 1 + parts.sum) depth) :=
        List.map_congr_left fun child _ => ih child
      exact congrArg (1 + List.sum ·) below

theorem Acyclic.walkSteps_eq (acyclic : graph.Acyclic) (id : NodeId) :
    graph.walkSteps id = 1 + ((graph.children id).map graph.walkSteps).sum := by
  have steps : graph.walkSteps = graph.fold fun _ parts => 1 + parts.sum := by
    funext id
    rw [walkSteps, visits_eq, fold]
  rw [steps]
  exact acyclic.fold_eq _ id

theorem Acyclic.induction {motive : NodeId → Prop} (acyclic : graph.Acyclic)
    (step : ∀ id, (∀ child ∈ graph.children id, motive child) → motive id) (id : NodeId) : motive id := by
  generalize size : graph.walkSteps id = n
  induction n using Nat.strong_induction_on generalizing id with
  | _ n ih =>
      refine step id fun child member => ih _ ?_ child rfl
      -- each child takes fewer steps than its parent, also where it is shared
      have bound := List.le_sum_of_mem (List.mem_map_of_mem (f := graph.walkSteps) member)
      have steps := acyclic.walkSteps_eq id
      omega

/-! ## Walks and listings -/

theorem walkFrom_eq (steps : Nat) (waiting : List NodeId) :
    graph.walkFrom steps waiting = explore graph.children steps waiting := by
  induction steps generalizing waiting with
  | zero => rfl
  | succ steps ih =>
      cases waiting with
      | nil => rfl
      | cons id waiting => rw [walkFrom, explore, ih]

theorem Acyclic.walk_eq (acyclic : graph.Acyclic) (id : NodeId) :
    graph.walk id = id :: (graph.children id).flatMap graph.walk := by
  have walks : graph.walk = fun id => explore graph.children (graph.walkSteps id) [id] :=
    funext fun id => walkFrom_eq _ [id]
  rw [walks]
  exact explore_single acyclic.walkSteps_eq id

def below (graph : Graph) (place : NodeId × Int) : List (NodeId × Int) :=
  (graph.children place.1).map (·, place.2 + 1)

theorem linesFrom_eq (steps : Nat) (waiting : List (NodeId × Int)) :
    graph.linesFrom steps waiting =
      (explore graph.below steps waiting).map fun place => graph.lineAt place.1 place.2 := by
  induction steps generalizing waiting with
  | zero => rfl
  | succ steps ih =>
      cases waiting with
      | nil => rfl
      | cons place waiting =>
          rw [linesFrom, explore, ih, List.map_cons]
          rfl

def lines (graph : Graph) (id : NodeId) (depth : Int) : List Text :=
  graph.linesFrom (graph.walkSteps id) [(id, depth)]

theorem Acyclic.lines_eq (acyclic : graph.Acyclic) (id : NodeId) (depth : Int) :
    graph.lines id depth =
      graph.lineAt id depth :: (graph.children id).flatMap (graph.lines · (depth + 1)) := by
  have weighs (place : NodeId × Int) : graph.walkSteps place.1 =
      1 + ((graph.below place).map fun place => graph.walkSteps place.1).sum := by
    rw [below, List.map_map, acyclic.walkSteps_eq]
    rfl
  have single := explore_single weighs (id, depth)
  simp only [lines, linesFrom_eq]
  rw [single, List.map_cons, List.map_flatMap, below, List.flatMap_map]

theorem Acyclic.listing_eq (acyclic : graph.Acyclic) (id : NodeId) (depth : Int) :
    graph.listing id depth = Text.joined ['\n']
      (graph.lineAt id depth :: (graph.children id).map (graph.listing · (depth + 1))) := by
  have filled (child : NodeId) : graph.lines child (depth + 1) ≠ [] := by
    rw [acyclic.lines_eq]
    exact List.cons_ne_nil _ _
  have listed : graph.listing id depth = Text.joined ['\n'] (graph.lines id depth) := rfl
  rw [listed, acyclic.lines_eq, Text.joined_flatMap fun child _ => filled child]
  rfl

/-! ## Summaries -/

def Closed (graph : Graph) : List NodeId → Prop
  | [] => True
  | id :: ids => (∀ child ∈ graph.children id, child ∈ ids) ∧ graph.Closed ids

theorem Closed.append {front back : List NodeId} (first : graph.Closed front) (second : graph.Closed back) :
    graph.Closed (front ++ back) := by
  induction front with
  | nil => exact second
  | cons id front ih =>
      obtain ⟨here, behind⟩ := first
      exact ⟨fun child member => List.mem_append_left _ (here child member), ih behind⟩

theorem Closed.flatMap {ids : List NodeId} {below : NodeId → List NodeId}
    (closed : ∀ id ∈ ids, graph.Closed (below id)) : graph.Closed (ids.flatMap below) := by
  induction ids with
  | nil => trivial
  | cons id ids ih =>
      obtain ⟨here, behind⟩ := List.forall_mem_cons.mp closed
      exact here.append (ih behind)

theorem Acyclic.mem_walk (acyclic : graph.Acyclic) (id : NodeId) : id ∈ graph.walk id := by
  rw [acyclic.walk_eq]
  exact List.mem_cons_self

theorem Acyclic.closed_walk (acyclic : graph.Acyclic) (id : NodeId) : graph.Closed (graph.walk id) := by
  induction id using acyclic.induction with
  | step id ih =>
      rw [acyclic.walk_eq]
      refine ⟨fun child member => ?_, .flatMap ih⟩
      exact List.mem_flatMap.mpr ⟨child, member, acyclic.mem_walk child⟩

def summaryOf (graph : Graph) : NodeId → Summary :=
  graph.fold fun id children => .ofNode ((graph.node? id).getD (.fresh .plain)) children

theorem mapM_eq_some_map {α β : Type} {f : α → Option β} {g : α → β} {items : List α}
    (all : ∀ item ∈ items, f item = some (g item)) : items.mapM f = some (items.map g) := by
  induction items with
  | nil => rfl
  | cons item items ih =>
      obtain ⟨here, behind⟩ := List.forall_mem_cons.mp all
      rw [List.mapM_cons, here, ih behind]
      rfl

theorem Acyclic.foldlM_summarize (acyclic : graph.Acyclic) {ids : List NodeId} (closed : graph.Closed ids)
    (inside : ∀ id ∈ ids, id < graph.size) :
    ids.reverse.foldlM graph.summarize [] = some (ids.map fun id => (id, graph.summaryOf id)) := by
  induction ids with
  | nil => rfl
  | cons id ids ih =>
      obtain ⟨below, closed⟩ := closed
      obtain ⟨here, inside⟩ := List.forall_mem_cons.mp inside
      obtain ⟨cell, found⟩ : ∃ cell, graph.cell? id = some cell := ⟨_, List.getElem?_eq_getElem here⟩
      have children : (graph.children id).mapM ((ids.map fun id => (id, graph.summaryOf id)).lookup ·) =
          some ((graph.children id).map graph.summaryOf) :=
        mapM_eq_some_map fun child member => List.lookup_graph graph.summaryOf (below child member)
      have own : graph.summaryOf id = .ofNode cell.node ((graph.children id).map graph.summaryOf) := by
        rw [summaryOf, acyclic.fold_eq, node?_of_cell? found, Option.getD_some]
      rw [children_of_cell? found] at children own
      rw [List.reverse_cons, List.foldlM_append, ih closed inside]
      simp [summarize, found, children, own]

theorem Acyclic.lt_size_of_mem_walk (acyclic : graph.Acyclic)
    (inside : ∀ id, ∀ child ∈ graph.children id, child < graph.size) (here : id < graph.size) :
    ∀ other ∈ graph.walk id, other < graph.size := by
  induction id using acyclic.induction with
  | step id ih =>
      rw [acyclic.walk_eq]
      refine List.forall_mem_cons.mpr ⟨here, fun other member => ?_⟩
      obtain ⟨child, below, member⟩ := List.mem_flatMap.mp member
      exact ih child below (inside id child below) other member

theorem Acyclic.summary?_eq (acyclic : graph.Acyclic)
    (inside : ∀ id, ∀ child ∈ graph.children id, child < graph.size) (here : id < graph.size) :
    graph.summary? id = some (graph.summaryOf id) := by
  have table := acyclic.foldlM_summarize (acyclic.closed_walk id) (acyclic.lt_size_of_mem_walk inside here)
  rw [summary?, table]
  exact List.lookup_graph graph.summaryOf (acyclic.mem_walk id)

theorem Closed.split {front back : List NodeId} (closed : graph.Closed (front ++ id :: back)) :
    (∀ child ∈ graph.children id, child ∈ back) ∧ graph.Closed back := by
  induction front with
  | nil => exact closed
  | cons other front ih => exact ih closed.2

end Graph

/-- Without cycles, the traversals of a graph that is made by hand are recursions along the children, also
where nodes are shared, and no summary is put together before those of the children. -/
theorem Graph.traversal_eq {graph : Graph} {id : NodeId} {node : Node} (made : graph.Made)
    (acyclic : graph.Acyclic) (found : graph.node? id = some node) :
    graph.walk id = id :: (graph.children id).flatMap graph.walk ∧
    (∀ depth : Int, graph.listing id depth = Text.joined ['\n']
      ((List.replicate (2 * depth.toNat) ' ' ++ node.line) ::
        (graph.children id).map (graph.listing · (depth + 1)))) ∧
    (∃ children, (graph.children id).mapM graph.summary? = some children ∧
      graph.summary? id = some (.mk node.name node.content.attributes children)) ∧
    ∀ front other back, graph.walk id = front ++ other :: back →
      ∃ table, back.reverse.foldlM graph.summarize [] = some table ∧
        ∀ child ∈ graph.children other, (table.lookup child).isSome := by
  have inside := made.routed.inside
  have here := lt_size_of_node? found
  refine ⟨acyclic.walk_eq id, fun depth => ?_, ⟨(graph.children id).map graph.summaryOf, ?_, ?_⟩,
    fun front other back split => ?_⟩
  · obtain ⟨cell, stored, rfl⟩ := exists_cell? found
    rw [acyclic.listing_eq, lineAt, stored]
    rfl
  · exact mapM_eq_some_map fun child member => acyclic.summary?_eq inside (inside id child member)
  · rw [acyclic.summary?_eq inside here, summaryOf, acyclic.fold_eq, found]
    rfl
  · have closed := acyclic.closed_walk id
    have bounds := acyclic.lt_size_of_mem_walk inside here
    rw [split] at closed bounds
    obtain ⟨below, closed⟩ := closed.split
    have bounds : ∀ id ∈ back, id < graph.size := fun id member =>
      bounds id (List.mem_append_right _ (List.mem_cons_of_mem other member))
    refine ⟨_, acyclic.foldlM_summarize closed bounds, fun child member => ?_⟩
    rw [List.lookup_graph graph.summaryOf (below child member)]
    rfl

theorem Graph.traversal_eq_shared :
    let kinds : List Kind := [.root, .plain, .block, .text]
    let nodes := kinds.map fun kind => Action.create (.fresh kind)
    let links : List Action := [.add 0 1, .add 0 2, .add 1 3, .add 2 3, .add 1 3]
    let graph := performAll {} (nodes ++ links)
    graph.Made ∧ graph.Acyclic ∧ graph.children 1 = [3, 3] ∧
      graph.walk 1 = 1 :: ([3, 3].flatMap graph.walk) ∧
      graph.listing 0 (-1) = Text.joined ['\n']
        ((Node.fresh .root).line :: [graph.listing 1 0, graph.listing 2 0]) ∧
      ∃ children, [1, 2].mapM graph.summary? = some children ∧
        graph.summary? 0 = some (.mk Kind.root.name [("source_id".toList, .text [])] children) := by
  intro kinds nodes links graph
  have made : graph.Made := Made.empty.performAll _
  have ascending : ∀ id < graph.size, ∀ child ∈ graph.children id, id < child := by decide
  have acyclic : graph.Acyclic :=
    acyclic_of_ascends fun id child member => ascending id (lt_size_of_children member) child member
  have root : graph.node? 0 = some (.fresh .root) := rfl
  have plain : graph.node? 1 = some (.fresh .plain) := rfl
  obtain ⟨-, listed, summarized, -⟩ := traversal_eq made acyclic root
  exact ⟨made, acyclic, rfl, (traversal_eq made acyclic plain).1, listed (-1), summarized⟩

end TemplateTree
