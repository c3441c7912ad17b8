import TemplateTree.Tree

/-!
Summaries of trees: names and attributes, without tags.
-/
namespace TemplateTree

inductive Summary where
  | mk (name : Text) (attributes : List (Text × AttributeValue)) (children : List Summary)

namespace Summary

def name : Summary → Text
  | mk name _ _ => name

def attributes : Summary → List (Text × AttributeValue)
  | mk _ attributes _ => attributes

def children : Summary → List Summary
  | mk _ _ children => children

def ofNode (node : Node) (children : List Summary) : Summary :=
  mk node.name node.content.attributes children

mutual

def walk : Summary → List Summary
  | mk name attributes children => mk name attributes children :: walkAll children

def walkAll : List Summary → List Summary
  | [] => []
  | summary :: summaries => walk summary ++ walkAll summaries

end

end Summary

namespace Tree

mutual

def summary : Tree → Summary
  | mk node children => .ofNode node (summaries children)

def summaries : List Tree → List Summary
  | [] => []
  | tree :: trees => summary tree :: summaries trees

end

end Tree

end TemplateTree
