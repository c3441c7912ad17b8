import TemplateTree.Node.Closing
import TemplateTree.Node.Reading
import TemplateTree.Registry
import TemplateTree.Tree

/-!
Building a tree from fragments. The scopes that are open form a stack, innermost first, with the
root at the bottom. A fragment adds a node to the innermost scope, opens a scope or closes one; a
closed scope becomes a child of the scope around it.
-/
namespace TemplateTree

/-- A node whose closing tag is still to come. Its children stand last first. Once a conditional has
an alternative, its later children belong to that; they stand last first too. -/
structure Scope where
  node : Node
  children : List Tree := []
  alternative : Option (Node × List Tree) := none

namespace Scope

def tree (scope : Scope) : Tree :=
  match scope.alternative with
  | none => .mk scope.node scope.children.reverse
  | some (node, children) =>
      .mk scope.node (scope.children.reverse ++ [.mk node children.reverse])

def add (scope : Scope) (child : Tree) : Except TreeError Scope :=
  if scope.node.isLeaf then .error (.childOfLeaf scope.node)
  else match scope.alternative with
    | some (node, children) =>
        if child.node.kind = .alternative then
          .error (.duplicateAlternative (child.node.tagOrName) scope.node)
        else .ok { scope with alternative := some (node, child :: children) }
    | none =>
        if scope.node.kind = .conditional ∧ child.node.kind = .alternative then
          .ok { scope with alternative := some (child.node, child.children.reverse) }
        else .ok { scope with children := child :: scope.children }

def close (scope : Scope) (closing : Text) : Tree :=
  { scope with node := scope.node.close closing }.tree

end Scope

structure Builder where
  registry : Registry
  strict : Bool := false

namespace Builder

def makeNode (builder : Builder) (fragment : Fragment) : Except TreeError Node :=
  match fragment.kind with
  | .text => Node.ofFragment .text fragment
  | .variableTag => Node.ofFragment .expression fragment
  | .openTag => do
      let rule ← builder.registry.resolve fragment.clean
      Node.ofFragment rule.kind fragment
  | .closeTag | .unknown _ => .error (.unknownTag fragment.clean)

def checkClose (builder : Builder) (node : Node) (closing : Text) : Except TreeError Unit :=
  if builder.strict then do
    let accepted ← node.acceptsClose closing
    if accepted then .ok () else .error (.mismatchedClose node closing)
  else .ok ()

def step (builder : Builder) (scopes : List Scope) (fragment : Fragment) :
    Except TreeError (List Scope) :=
  match scopes with
  | [] => .error .strayClose
  | scope :: outer =>
      if fragment.kind = .closeTag then
        match outer with
        | [] => .error .strayClose
        | parent :: outer => do
            builder.checkClose scope.node fragment.clean
            let parent ← parent.add (scope.close fragment.clean)
            return parent :: outer
      else do
        let node ← builder.makeNode fragment
        if node.createsScope then return { node := node } :: scope :: outer
        else
          let scope ← scope.add (.mk node [])
          return scope :: outer

def run (builder : Builder) : List Scope → List Fragment → Except TreeError (List Scope)
  | scopes, [] => .ok scopes
  | scopes, fragment :: fragments => do
      let scopes ← builder.step scopes fragment
      builder.run scopes fragments

theorem run_append (builder : Builder) (scopes : List Scope) (first second : List Fragment) :
    builder.run scopes (first ++ second) =
      (builder.run scopes first).bind (builder.run · second) := by
  induction first generalizing scopes with
  | nil => rfl
  | cons fragment first ih =>
      rw [List.cons_append, run, run]
      cases builder.step scopes fragment with
      | error error => rfl
      | ok scopes => exact ih scopes

def finish : List Scope → Except TreeError Tree
  | [] => .error .strayClose
  | [root] => .ok root.tree
  | scope :: _ :: _ => .error (.unclosed scope.node)

def build (builder : Builder) (fragments : List Fragment) (sourceId : Text) :
    Except TreeError Tree := do
  let scopes ← builder.run [{ node := .root sourceId }] fragments
  finish scopes

/-- The opening tags that a run resolves, with the rules that accept them, up to the fragment at
which it stops. -/
def resolutions (builder : Builder) : List Scope → List Fragment → List (Text × TagRule)
  | _, [] => []
  | scopes, fragment :: fragments =>
      let resolved :=
        match fragment.kind, builder.registry.resolve fragment.clean with
        | .openTag, .ok rule => [(fragment.clean, rule)]
        | _, _ => []
      match builder.step scopes fragment with
      | .ok scopes => resolved ++ builder.resolutions scopes fragments
      | .error _ => resolved

end Builder

end TemplateTree
