import TemplateTree.Yaml.Number
import TemplateTree.Yaml.Problem
import TemplateTree.Yaml.Tag
import TemplateTree.Yaml.Timestamp

/-!
Kinds of plain scalars without a tag, by their texts.
-/
namespace TemplateTree.Yaml.Tag

def booleanNames (version : Version) : List String :=
  ["true", "True", "TRUE", "false", "False", "FALSE"] ++
    if version.isFirst then
      ["y", "Y", "yes", "Yes", "YES", "n", "N", "no", "No", "NO",
       "on", "On", "ON", "off", "Off", "OFF"]
    else []

def nullNames : List String := ["~", "null", "Null", "NULL"]

def ofForm (version : Version) (text : Text) : Tag :=
  let name := String.ofList text
  if (booleanNames version).contains name then .boolean
  else if isRealForm version text then .real
  else if isIntegerForm version text then .integer
  else if name = "<<" then .merge
  else if nullNames.contains name then .null
  else if (Timestamp.read? text).any Timestamp.isPlain then .moment
  else if name = "=" then .standIn
  else .text

/-- The kind of a plain scalar. A line feed at its end has no meaning. Only the versions 1.1 and 1.2
have rules for it. -/
def ofPlain (version : Version) (text : Text) : Except Problem Tag :=
  if version.minor ≠ 1 ∧ version.minor ≠ 2 then
    .error (.fault (.unknownVersion 1 version.minor))
  else if text = [] then .ok .null
  else .ok (ofForm version ((text.dropSuffix? ['\n']).getD text))

end TemplateTree.Yaml.Tag
