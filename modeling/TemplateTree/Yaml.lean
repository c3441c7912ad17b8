import TemplateTree.Yaml.Element.Assembly
import TemplateTree.Yaml.Element.Value
import TemplateTree.Yaml.Token.Stream

/-!
Reading YAML: a stream of at most one document.
-/
namespace TemplateTree.Yaml

def read (text : Text) : Except Problem Value := do
  let (version, element) ← Element.ofStream (.ofText text)
  (element.value version 0 false).mapError Prod.snd

end TemplateTree.Yaml
