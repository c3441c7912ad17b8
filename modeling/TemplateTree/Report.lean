import TemplateTree.Fragment
import TemplateTree.Json
import TemplateTree.Summary

/-!
Reports on documents: their fragments, and their trees.
-/
namespace TemplateTree

def Fragment.toJson (fragment : Fragment) : Json :=
  .object [
    ("kind".toList, .text fragment.kind.name),
    ("raw".toList, .text fragment.raw),
    ("clean".toList, .text fragment.clean)]

def AttributeValue.toJson : AttributeValue → Json
  | text value => .text value
  | texts values => .array (values.map .text)
  | number value => .number value

def attributesToJson (attributes : List (Text × AttributeValue)) : Json :=
  .object (attributes.map fun (name, value) => (name, value.toJson))

namespace Summary

mutual

def toJson : Summary → Json
  | mk name attributes children =>
      .object [
        ("name".toList, .text name),
        ("attributes".toList, attributesToJson attributes),
        ("children".toList, .array (toJsonAll children))]

def toJsonAll : List Summary → List Json
  | [] => []
  | summary :: summaries => toJson summary :: toJsonAll summaries

end

end Summary

def fragmentReport (sourceId : Text) (fragments : List Fragment) : Json :=
  .object [
    ("source_id".toList, .text sourceId),
    ("fragments".toList, .array (fragments.map Fragment.toJson))]

def treeReport (sourceId : Text) (tree : Tree) : Json :=
  .object [
    ("source_id".toList, .text sourceId),
    ("node_count".toList, .number tree.size),
    ("root".toList, tree.summary.toJson)]

end TemplateTree
