import TemplateTree.Text.Base64
import TemplateTree.Yaml.Number
import TemplateTree.Yaml.Problem
import TemplateTree.Yaml.Tag
import TemplateTree.Yaml.Timestamp

/-!
Values of scalars by their tags.
-/
namespace TemplateTree.Yaml

def booleans : List (String × Bool) :=
  [("yes", true), ("no", false), ("y", true), ("n", false), ("true", true), ("false", false),
   ("on", true), ("off", false)]

def boolean (text : Text) : Except ValueFault Bool :=
  let name := text.map Char.toLower
  match booleans.lookup (String.ofList name) with
  | some value => .ok value
  | none => .error (.notBoolean name)

def scalarValue (version : Version) (tag : Tag) (text : Text) : Except Problem Value :=
  match tag with
  | .null => .ok .null
  | .boolean => ((boolean text).map .boolean).mapError .fault
  | .integer => ((integer version text).map .integer).mapError .fault
  | .real => ((real version text).map .real).mapError .fault
  | .bytes => (orMalformed (Text.ofBase64? text)).map .bytes
  | .moment => do
      let timestamp ← orMalformed (Timestamp.read? ((text.dropSuffix? ['\n']).getD text))
      (timestamp.value.mapError ValueFault.moment).mapError .fault
  | .text => .ok (.text text)
  | _ => .error .malformed

end TemplateTree.Yaml
