import TemplateTree.Json
import TemplateTree.Text.Digit
import TemplateTree.Text.Quoted

/-!
The layout of JSON documents: one item a line, two spaces per level, and nothing between the brackets
of what is empty.
-/
namespace TemplateTree

namespace Json

def escaped (c : Char) : Text :=
  if c = '"' ∨ c = '\\' then ['\\', c]
  else if c = '\x08' then ['\\', 'b']
  else if c = '\t' then ['\\', 't']
  else if c = '\n' then ['\\', 'n']
  else if c = '\x0c' then ['\\', 'f']
  else if c = '\r' then ['\\', 'r']
  else if c.toNat < 0x20 then '\\' :: 'u' :: Text.hexDigits 4 c.toNat
  else [c]

def string (text : Text) : Text :=
  '"' :: (text.flatMap escaped ++ ['"'])

def newline (level : Nat) : Text :=
  '\n' :: List.replicate (2 * level) ' '

def bracketed (level : Nat) (first last : Char) (items : List Text) : Text :=
  if items = [] then [first, last]
  else
    first :: (newline (level + 1) ++ Text.joined (',' :: newline (level + 1)) items ++
      newline level ++ [last])

mutual

def layout (level : Nat) : Json → Text
  | text value => string value
  | number value => Text.ofNat value
  | array items => bracketed level '[' ']' (layoutItems (level + 1) items)
  | object members => bracketed level '\x7b' '\x7d' (layoutMembers (level + 1) members)

def layoutItems (level : Nat) : List Json → List Text
  | [] => []
  | item :: items => layout level item :: layoutItems level items

def layoutMembers (level : Nat) : List (Text × Json) → List Text
  | [] => []
  | member :: members => layoutMember level member :: layoutMembers level members

def layoutMember (level : Nat) : Text × Json → Text
  | (name, value) => string name ++ ':' :: ' ' :: layout level value

end

end Json

end TemplateTree
