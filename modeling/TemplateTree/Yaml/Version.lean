/-!
Versions of YAML. A document that asks for none is read by version 1.2.
-/
namespace TemplateTree.Yaml

structure Version where
  minor : Nat
deriving DecidableEq

namespace Version

def standard : Version := ⟨2⟩

def isFirst (version : Version) : Bool := version.minor = 1

def allowsEmptyKey (version : Version) : Bool := 1 < version.minor

end Version

end TemplateTree.Yaml
