import TemplateTree.Builder
import TemplateTree.Config
import TemplateTree.Fragment.Slice

/-!
Compiling documents: text to fragments to a tree. What happens on the way is told as a list of
events, which ends where compiling stops.
-/
namespace TemplateTree

structure Compiler where
  config : Config := .standard
  registry : Registry := .standard

inductive Event where
  | started (sourceId : Text)
  | tokenized (characters fragments : Nat)
  | resolved (tag : Text) (rule : Text)
  | built (sourceId : Text) (nodes : Nat)
deriving DecidableEq

def Event.message : Event → Text
  | started sourceId => "Compiling '".toList ++ sourceId ++ ['\'']
  | tokenized characters fragments =>
      "Tokenized ".toList ++ Text.ofNat characters ++ " chars into ".toList ++
        Text.ofNat fragments ++ " fragments".toList
  | resolved tag rule => "Tag '".toList ++ tag ++ "' matched rule '".toList ++ rule ++ ['\'']
  | built sourceId nodes =>
      "Built tree for '".toList ++ sourceId ++ "' with ".toList ++ Text.ofNat nodes ++
        " nodes".toList

namespace Compiler

def anonymous : Text := "<string>".toList

def tokenize (compiler : Compiler) (text : Text) : List Fragment :=
  TemplateTree.tokenize compiler.config.delimiters text

def builder (compiler : Compiler) : Builder :=
  { registry := compiler.registry, strict := compiler.config.strictClosing }

def compile (compiler : Compiler) (text sourceId : Text) : Except TreeError Tree :=
  compiler.builder.build (compiler.tokenize text) sourceId

def tokenizeEvents (compiler : Compiler) (text : Text) : List Event :=
  [.tokenized text.length (compiler.tokenize text).length]

def events (compiler : Compiler) (text sourceId : Text) : List Event :=
  let resolutions :=
    compiler.builder.resolutions [{ node := .root sourceId }] (compiler.tokenize text)
  .started sourceId :: compiler.tokenizeEvents text ++
    (resolutions.map fun (tag, rule) => Event.resolved tag rule.name) ++
    match compiler.compile text sourceId with
    | .ok tree => [.built sourceId (tree.size - 1)]
    | .error _ => []

end Compiler

end TemplateTree
