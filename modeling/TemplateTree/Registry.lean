import TemplateTree.Pattern
import TemplateTree.TreeError

/-!
Tag rules. A registry holds them in order, and the first rule whose pattern accepts the content of
an opening tag tells which kind of node the tag makes.
-/
namespace TemplateTree

structure TagRule where
  name : Text
  pattern : Pattern
  kind : Kind

structure Registry where
  rules : List TagRule

inductive RegistryError where
  | nameTaken (name : Text)
  | unknownRule (name : Text)
deriving DecidableEq

def RegistryError.message : RegistryError → Text
  | nameTaken name => "Tag rule '".toList ++ name ++ "' already registered".toList
  | unknownRule name => "Tag rule '".toList ++ name ++ "' not found".toList

namespace TagRule

def isTargetChar (c : Char) : Bool :=
  c.isAlphanum || c = ' ' || c = '_' || c = ','

def ofKind (kind : Kind) (pattern : Pattern) : TagRule :=
  ⟨kind.name, pattern, kind⟩

def builtIn : List TagRule :=
  [ofKind .conditional
      (.word Kind.conditional.name (.blanks (.many Pattern.isLineChar .lineEnd))),
   ofKind .alternative (.word Kind.alternative.name .lineEnd),
   ofKind .loop
      (.word Kind.loop.name (.blanks (.one Text.isWordChar (.many isTargetChar
        (.blanks (.word ['i', 'n'] (.blanks .restOfLine))))))),
   ofKind .inclusion (.keyword Kind.inclusion.name),
   ofKind .block (.word Kind.block.name (.blanks (.some Text.isWordChar .lineEnd))),
   ofKind .extension (.keyword Kind.extension.name),
   ofKind .cache
      (.word Kind.cache.name (.blanks (.some Text.isDigit
        (.blanks (.one Pattern.isLineChar .anything)))))]

end TagRule

namespace Registry

def empty : Registry := ⟨[]⟩

def standard : Registry := ⟨TagRule.builtIn⟩

def names (registry : Registry) : List Text := registry.rules.map TagRule.name

def register (registry : Registry) (rule : TagRule) (before : Option Text) :
    Except RegistryError Registry :=
  if registry.names.contains rule.name then .error (.nameTaken rule.name)
  else match before with
    | none => .ok ⟨registry.rules ++ [rule]⟩
    | some name =>
        match registry.rules.span (·.name ≠ name) with
        | (_, []) => .error (.unknownRule name)
        | (front, back) => .ok ⟨front ++ rule :: back⟩

def accepting (registry : Registry) (tag : Text) : List TagRule :=
  registry.rules.filter (·.pattern tag)

def resolve (registry : Registry) (tag : Text) : Except TreeError TagRule :=
  match registry.rules.find? (·.pattern tag) with
  | some rule => .ok rule
  | none => .error (.unknownTag tag)

end Registry

end TemplateTree
