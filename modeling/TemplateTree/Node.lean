import TemplateTree.Text.Digit
import TemplateTree.Text.Quoted

/-!
Nodes of a template tree: what their tags say and how they are described.
-/
namespace TemplateTree

/-- The kinds of nodes. `plain` and `leaf` stand for tags without data of their own; a `leaf`
refuses children. -/
inductive Kind where
  | plain
  | leaf
  | root
  | text
  | expression
  | conditional
  | alternative
  | loop
  | inclusion
  | block
  | extension
  | cache
deriving DecidableEq

namespace Kind

def name : Kind → Text
  | plain => ['n', 'o', 'd', 'e']
  | leaf => ['n', 'o', 'd', 'e']
  | root => ['r', 'o', 'o', 't']
  | text => ['t', 'e', 'x', 't']
  | expression => ['v', 'a', 'r', 'i', 'a', 'b', 'l', 'e']
  | conditional => ['i', 'f']
  | alternative => ['e', 'l', 's', 'e']
  | loop => ['f', 'o', 'r']
  | inclusion => ['i', 'n', 'c', 'l', 'u', 'd', 'e']
  | block => ['b', 'l', 'o', 'c', 'k']
  | extension => ['e', 'x', 't', 'e', 'n', 'd', 's']
  | cache => ['c', 'a', 'c', 'h', 'e']

def label : Kind → Text
  | plain => "Node".toList
  | leaf => "LeafNode".toList
  | root => "Root".toList
  | text => "TextNode".toList
  | expression => "VariableNode".toList
  | conditional => "IfNode".toList
  | alternative => "ElseNode".toList
  | loop => "ForNode".toList
  | inclusion => "IncludeNode".toList
  | block => "BlockNode".toList
  | extension => "ExtendsNode".toList
  | cache => "CacheNode".toList

def createsScope : Kind → Bool
  | root | conditional | loop | block | cache => true
  | _ => false

def isLeaf : Kind → Bool
  | leaf | text | expression | inclusion | extension => true
  | _ => false

end Kind

inductive Content where
  | plain
  | leaf
  | root (sourceId : Text)
  | text (value : Text)
  | expression (value : Text)
  | conditional (condition : Text)
  | alternative
  | loop (targets : List Text) (iterable : Text)
  | inclusion (target : Text)
  | block (name : Text)
  | extension (target : Text)
  | cache (seconds : Nat) (key : Text)
deriving DecidableEq

def Content.kind : Content → Kind
  | plain => .plain
  | leaf => .leaf
  | root _ => .root
  | text _ => .text
  | expression _ => .expression
  | conditional _ => .conditional
  | alternative => .alternative
  | loop _ _ => .loop
  | inclusion _ => .inclusion
  | block _ => .block
  | extension _ => .extension
  | cache _ _ => .cache

def Kind.fresh : Kind → Content
  | plain => .plain
  | leaf => .leaf
  | root => .root []
  | text => .text []
  | expression => .expression []
  | conditional => .conditional []
  | alternative => .alternative
  | loop => .loop [] []
  | inclusion => .inclusion []
  | block => .block []
  | extension => .extension []
  | cache => .cache 0 []

@[simp] theorem Kind.kind_fresh (kind : Kind) : kind.fresh.kind = kind := by
  cases kind <;> rfl

inductive AttributeValue where
  | text (value : Text)
  | texts (values : List Text)
  | number (value : Nat)
deriving DecidableEq

def AttributeValue.describe : AttributeValue → Text
  | text value => value.quoted
  | texts values => Text.quotedList values
  | number value => Text.ofNat value

def Content.attributes : Content → List (Text × AttributeValue)
  | plain => []
  | leaf => []
  | root sourceId => [("source_id".toList, .text sourceId)]
  | text value => [("text".toList, .text value)]
  | expression value => [("expression".toList, .text value)]
  | conditional condition => [("condition".toList, .text condition)]
  | alternative => []
  | loop targets iterable =>
      [("targets".toList, .texts targets), ("iterable".toList, .text iterable)]
  | inclusion target => [("target".toList, .text target)]
  | block name => [("block_name".toList, .text name)]
  | extension target => [("target".toList, .text target)]
  | cache seconds key => [("ttl".toList, .number seconds), ("key".toList, .text key)]

def Content.describe (content : Content) : Text :=
  let describeAttribute := fun (name, value) => name ++ '=' :: AttributeValue.describe value
  content.kind.label ++
    '(' :: (Text.joined [',', ' '] (content.attributes.map describeAttribute) ++ [')'])

/-- A node without its children. `tag` is the content of the tag that it has read, `closing` the
content of the tag that closed it. -/
structure Node where
  content : Content
  tag : Option Text := none
  closing : Option Text := none
deriving DecidableEq

namespace Node

def kind (node : Node) : Kind := node.content.kind

def name (node : Node) : Text := node.kind.name

def createsScope (node : Node) : Bool := node.kind.createsScope

def isLeaf (node : Node) : Bool := node.kind.isLeaf

def describe (node : Node) : Text := node.content.describe

def tagOrName (node : Node) : Text :=
  match node.tag with
  | none | some [] => node.name
  | some tag => tag

def fresh (kind : Kind) : Node := { content := kind.fresh }

def root (sourceId : Text) : Node := { content := .root sourceId }

def close (node : Node) (closing : Text) : Node := { node with closing := some closing }

end Node

end TemplateTree
