import TemplateTree.Listing
import TemplateTree.Node.Closing
import TemplateTree.Node.Reading
import TemplateTree.Summary

/-!
Nodes that are linked by hand. Nodes have numbers, and a node may be a child of several nodes, or
several times of one. The traversals keep a list of what is still to visit and do not recur; a
summary is put together from the summaries of the children, which come first in reversed pre-order.
-/
namespace TemplateTree

abbrev NodeId := Nat

structure Cell where
  node : Node
  children : List NodeId := []
  alternative : Option NodeId := none

structure Graph where
  cells : List Cell := []

namespace Graph

def cell? (graph : Graph) (id : NodeId) : Option Cell := graph.cells[id]?

def replace (graph : Graph) (id : NodeId) (cell : Cell) : Graph :=
  ⟨graph.cells.set id cell⟩

def create (graph : Graph) (node : Node) : Graph × NodeId :=
  (⟨graph.cells ++ [{ node := node }]⟩, graph.cells.length)

def size (graph : Graph) : Nat := graph.cells.length

def absorb (graph : Graph) (id : NodeId) (fragment : Fragment) : Graph × Option TreeError :=
  match graph.cell? id with
  | none => (graph, none)
  | some cell =>
      let (node, error) := cell.node.absorb fragment
      (graph.replace id { cell with node }, error)

def close (graph : Graph) (id : NodeId) (closing : Text) : Graph :=
  match graph.cell? id with
  | none => graph
  | some cell => graph.replace id { cell with node := cell.node.close closing }

def append (graph : Graph) (id child : NodeId) : Graph :=
  match graph.cell? id with
  | none => graph
  | some cell => graph.replace id { cell with children := cell.children ++ [child] }

/-- Links a child to a node. A conditional takes one alternative, which is its last child, and
later children go to that. -/
def addChild (graph : Graph) (id child : NodeId) : Except TreeError Graph :=
  match graph.cell? id, graph.cell? child with
  | some cell, some added =>
      if cell.node.isLeaf then .error (.childOfLeaf cell.node)
      else if cell.node.kind ≠ .conditional then .ok (graph.append id child)
      else if added.node.kind = .alternative then
        if cell.alternative.isSome then
          .error (.duplicateAlternative added.node.tagOrName cell.node)
        else
          .ok (graph.replace id
            { cell with children := cell.children ++ [child], alternative := some child })
      else .ok (graph.append (cell.alternative.getD id) child)
  | _, _ => .ok graph

def children (graph : Graph) (id : NodeId) : List NodeId :=
  (graph.cell? id).elim [] Cell.children

def body (graph : Graph) (id : NodeId) : List NodeId :=
  (graph.children id).filter fun child =>
    (graph.cell? id).bind Cell.alternative ≠ some child

/-! ## Traversals -/

def visits (graph : Graph) : Nat → NodeId → Nat
  | 0, _ => 1
  | depth + 1, id => 1 + ((graph.children id).map (graph.visits depth)).sum

/-- Enough steps for a walk from a node: without cycles, no path is longer than the number of
nodes. -/
def walkSteps (graph : Graph) (id : NodeId) : Nat := graph.visits graph.size id

def walkFrom (graph : Graph) : Nat → List NodeId → List NodeId
  | 0, _ => []
  | _ + 1, [] => []
  | steps + 1, id :: waiting => id :: graph.walkFrom steps (graph.children id ++ waiting)

def walk (graph : Graph) (id : NodeId) : List NodeId :=
  graph.walkFrom (graph.walkSteps id) [id]

def lineAt (graph : Graph) (id : NodeId) (depth : Int) : Text :=
  (graph.cell? id).elim [] (·.node.lineAt depth)

def linesFrom (graph : Graph) : Nat → List (NodeId × Int) → List Text
  | 0, _ => []
  | _ + 1, [] => []
  | steps + 1, (id, depth) :: waiting =>
      graph.lineAt id depth ::
        graph.linesFrom steps ((graph.children id).map (·, depth + 1) ++ waiting)

def listing (graph : Graph) (id : NodeId) (depth : Int) : Text :=
  Text.joined ['\n'] (graph.linesFrom (graph.walkSteps id) [(id, depth)])

abbrev SummaryTable := List (NodeId × Summary)

def summarize (graph : Graph) (table : SummaryTable) (id : NodeId) : Option SummaryTable := do
  let cell ← graph.cell? id
  let children ← cell.children.mapM (table.lookup ·)
  return (id, .ofNode cell.node children) :: table

/-- The summary of a node: all nodes of its walk are summarized, last first. -/
def summary? (graph : Graph) (id : NodeId) : Option Summary := do
  let table ← (graph.walk id).reverse.foldlM graph.summarize []
  table.lookup id

end Graph

end TemplateTree
