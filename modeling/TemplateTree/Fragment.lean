import TemplateTree.Delimiters
import TemplateTree.Text.Blank
import TemplateTree.Text.Quoted
import TemplateTree.Text.Word

/-!
Fragments: the classified slices of a template.
-/
namespace TemplateTree

/-- What a fragment is. An unknown kind comes only from fragments made by hand. -/
inductive FragmentKind where
  | text
  | variableTag
  | openTag
  | closeTag
  | unknown (name : Text)
deriving DecidableEq

def FragmentKind.name : FragmentKind → Text
  | text => "TEXT".toList
  | variableTag => "VARIABLE".toList
  | openTag => "OPEN_BLOCK".toList
  | closeTag => "CLOSE_BLOCK".toList
  | unknown name => name

/-- One slice of a template. For a tag, `clean` is its content without delimiters and without
blanks at the ends; for text it is the text itself. -/
structure Fragment where
  raw : Text
  kind : FragmentKind
  clean : Text
deriving DecidableEq

namespace Fragment

def isTag (fragment : Fragment) : Bool :=
  fragment.kind ≠ .text

def endWord : Text := ['e', 'n', 'd']

def isClosingTag (clean : Text) : Bool :=
  match clean.dropPrefix? endWord with
  | none => false
  | some rest =>
      match rest.dropWhile Text.isWordChar with
      | [] => true
      | c :: _ => Text.isBlank c

def ofText (raw : Text) : Fragment := ⟨raw, .text, raw⟩

def ofBlock (raw clean : Text) : Fragment :=
  ⟨raw, if isClosingTag clean then .closeTag else .openTag, clean⟩

def classify (delimiters : Delimiters) (raw : Text) : Fragment :=
  match delimiters.variableTag.unwrap? raw with
  | some body => ⟨raw, .variableTag, body.trim⟩
  | none =>
      match delimiters.blockTag.unwrap? raw with
      | some body => ofBlock raw body.trim
      | none => ofText raw

def describe (fragment : Fragment) : Text :=
  "Fragment(".toList ++ fragment.kind.name ++ ", ".toList ++ fragment.clean.quoted ++ [')']

end Fragment

end TemplateTree
