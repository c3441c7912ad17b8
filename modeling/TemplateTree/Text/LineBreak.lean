import TemplateTree.Text.Basic

/-!
Line breaks.
-/
namespace TemplateTree.Text

/-- As `unifyLineBreaks`, for a text of which a part has been read (last character first). -/
def unifyLineBreaksFrom (read : Text) : Text → Text
  | [] => read.reverse
  | '\r' :: '\n' :: text => unifyLineBreaksFrom ('\n' :: read) text
  | c :: text => unifyLineBreaksFrom ((if c = '\r' then '\n' else c) :: read) text

def unifyLineBreaks (text : Text) : Text := unifyLineBreaksFrom [] text

end TemplateTree.Text
