import TemplateTree.Yaml.Tag

/-!
Elements of a YAML document.
-/
namespace TemplateTree.Yaml

/-- An element with the tag of its kind. A recurrence stands for the collection around it that has
the given number of collections around itself. -/
inductive Element where
  | scalar (tag : Tag) (text : Text)
  | sequence (tag : Tag) (items : List Element)
  | mapping (tag : Tag) (entries : List (Element × Element))
  | recurrence (level : Nat) (tag : Tag)

structure Properties where
  anchor : Option Text := none
  tag : Option Text := none

namespace Properties

def isEmpty (properties : Properties) : Bool :=
  properties.anchor.isNone && properties.tag.isNone

/-- The kind of a collection; it is the given one unless a tag names another. The tag of a single
exclamation mark names none. -/
def collectionTag (properties : Properties) (standard : Tag) : Tag :=
  match properties.tag with
  | none | some ['!'] => standard
  | some name => Tag.ofName name

end Properties

end TemplateTree.Yaml
