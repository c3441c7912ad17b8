import TemplateTree.Yaml.Directive

/-!
Tokens of a YAML stream.
-/
namespace TemplateTree.Yaml

inductive Token where
  | directive (directive : Directive)
  | documentStart
  | documentEnd
  | blockSequenceStart
  | blockMappingStart
  | blockEnd
  | flowSequenceStart
  | flowSequenceEnd
  | flowMappingStart
  | flowMappingEnd
  | flowEntry
  | blockEntry
  | key
  | value
  | reference (name : Text)
  | anchor (name : Text)
  | tag (tag : WrittenTag)
  | scalar (text : Text) (isPlain : Bool)
deriving DecidableEq

structure TokenStream where
  tokens : List Token
  problem : Option Problem

end TemplateTree.Yaml
