import TemplateTree.Builder
import TemplateTree.Graph

/-!
Building a tree node by node: each node is made a child as soon as it is read, and the numbers of the
open scopes form the stack.
-/
namespace TemplateTree

/-- A document in the making: its nodes, the open scopes, innermost first, and the scopes that have
been closed, latest first. -/
structure Draft where
  graph : Graph
  opened : List NodeId
  closed : List NodeId := []

namespace Draft

def root : NodeId := 0

def start (sourceId : Text) : Draft where
  graph := ⟨[{ node := .root sourceId }]⟩
  opened := [root]

end Draft

def Graph.node? (graph : Graph) (id : NodeId) : Option Node := (graph.cell? id).map Cell.node

def Graph.alternative? (graph : Graph) (id : NodeId) : Option NodeId :=
  (graph.cell? id).bind Cell.alternative

def Graph.receiver (graph : Graph) (id : NodeId) : NodeId := (graph.alternative? id).getD id

namespace Builder

def link (builder : Builder) (draft : Draft) (fragment : Fragment) : Except TreeError Draft :=
  match draft.opened with
  | [] => .error .strayClose
  | id :: outer =>
      if fragment.kind = .closeTag then
        if id = Draft.root then .error .strayClose
        else do
          (draft.graph.node? id).elim (.ok ()) (builder.checkClose · fragment.clean)
          return {
            graph := draft.graph.close id fragment.clean
            opened := outer
            closed := id :: draft.closed }
      else do
        let node ← builder.makeNode fragment
        let (graph, child) := draft.graph.create node
        let graph ← graph.addChild id child
        return { draft with
          graph
          opened := if node.createsScope then child :: id :: outer else id :: outer }

def linkAll (builder : Builder) (draft : Draft) (fragments : List Fragment) :
    Except TreeError Draft :=
  fragments.foldlM builder.link draft

def document (builder : Builder) (fragments : List Fragment) (sourceId : Text) :
    Except TreeError Graph := do
  let draft ← builder.linkAll (.start sourceId) fragments
  match draft.opened with
  | id :: _ :: _ => (draft.graph.node? id).elim (.ok draft.graph) (.error <| .unclosed ·)
  | _ => .ok draft.graph

end Builder

end TemplateTree
