import TemplateTree.Text.Basic

/-!
The delimiters of comments, variables and block tags.
-/
namespace TemplateTree

structure Mark where
  text : Text
  text_ne_nil : text ≠ []
deriving DecidableEq

def Mark.ofText? (text : Text) : Option Mark :=
  if h : text ≠ [] then some ⟨text, h⟩ else none

structure Enclosure where
  opener : Mark
  closer : Mark
deriving DecidableEq

/-- The text between the delimiters of `raw`, if it has both and they do not overlap. -/
def Enclosure.unwrap? (enclosure : Enclosure) (raw : Text) : Option Text :=
  (raw.dropPrefix? enclosure.opener.text).bind (·.dropSuffix? enclosure.closer.text)

def Enclosure.wrap (enclosure : Enclosure) (body : Text) : Text :=
  enclosure.opener.text ++ (body ++ enclosure.closer.text)

theorem Enclosure.unwrap?_eq_some_iff {enclosure : Enclosure} {raw body : Text} :
    enclosure.unwrap? raw = some body ↔ raw = enclosure.wrap body := by
  simp [unwrap?, wrap, Option.bind_eq_some_iff, Text.dropPrefix?_eq_some_iff,
    Text.dropSuffix?_eq_some_iff]

def Mark.pair (first second : Char) : Mark := ⟨[first, second], List.cons_ne_nil _ _⟩

structure Delimiters where
  comment : Enclosure := ⟨.pair '{' '#', .pair '#' '}'⟩
  variableTag : Enclosure := ⟨.pair '{' '{', .pair '}' '}'⟩
  blockTag : Enclosure := ⟨.pair '{' '%', .pair '%' '}'⟩
deriving DecidableEq

def Delimiters.standard : Delimiters := {}

end TemplateTree
