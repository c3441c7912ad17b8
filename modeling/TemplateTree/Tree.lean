import TemplateTree.Node

/-!
Template trees and their traversals. All traversals are pre-order: a node comes before its children,
and children come in order.
-/
namespace TemplateTree

inductive Tree where
  | mk (node : Node) (children : List Tree)

namespace Tree

def node : Tree → Node
  | mk node _ => node

def children : Tree → List Tree
  | mk _ children => children

mutual

def walk : Tree → List Tree
  | mk node children => mk node children :: walkAll children

def walkAll : List Tree → List Tree
  | [] => []
  | tree :: trees => walk tree ++ walkAll trees

end

def size (tree : Tree) : Nat := tree.walk.length

end Tree

end TemplateTree
