import TemplateTree.Graph

/-!
How a child is added in a graph, one assignment after the other. Where the child is refused on the way,
the graph keeps what has been assigned up to there.
-/
namespace TemplateTree

/-- Assignments in a graph, in their order. An error leaves the graph as it is then. -/
abbrev Linking := EStateM TreeError Graph

namespace Linking

def push (id child : NodeId) : Linking Unit := modify (·.append id child)

def setAlternative (id branch : NodeId) : Linking Unit :=
  modify fun graph => match graph.cell? id with
    | none => graph
    | some cell => graph.replace id { cell with alternative := some branch }

/-- A conditional assigns its alternative before it takes it as a child. -/
def addToConditional (id child : NodeId) (cell : Cell) (added : Node) : Linking Unit := do
  if added.kind = .alternative then
    if cell.alternative.isSome then throw (.duplicateAlternative added.tagOrName cell.node)
    setAlternative id child
    push id child
  else push (cell.alternative.getD id) child

def add (id child : NodeId) : Linking Unit := do
  match (← get).cell? id, (← get).cell? child with
  | some cell, some added =>
      if cell.node.isLeaf then throw (.childOfLeaf cell.node)
      else if cell.node.kind = .conditional then addToConditional id child cell added.node
      else push id child
  | _, _ => pure ()

end Linking

def Graph.attempt (graph : Graph) (id child : NodeId) : Graph × Option TreeError :=
  match (Linking.add id child).run graph with
  | .ok _ graph => (graph, none)
  | .error error graph => (graph, some error)

end TemplateTree
