import TemplateTree.Delimiters

/-!
Comments. A comment runs from its opening delimiter to the first closing delimiter after it, over
line breaks too; comments do not nest, and an opening delimiter that nothing closes is text.
-/
namespace TemplateTree

def Enclosure.cutComment? (enclosure : Enclosure) (text : Text) : Option (Text × Text) :=
  match text.cut? enclosure.opener.text with
  | none => none
  | some (before, rest) =>
      match rest.cut? enclosure.closer.text with
      | none => none
      | some (_, after) => some (before, after)

theorem Enclosure.length_of_cutComment? {enclosure : Enclosure} {text before after : Text}
    (found : enclosure.cutComment? text = some (before, after)) :
    after.length < text.length := by
  unfold cutComment? at found
  split at found
  · cases found
  next _ rest opened =>
    split at found
    · cases found
    next _ last closed =>
      obtain ⟨-, rfl⟩ : _ ∧ last = after := by simpa using found
      have opener := List.length_pos_iff.mpr enclosure.opener.text_ne_nil
      rw [Text.eq_append_of_cut? opened, Text.eq_append_of_cut? closed]
      simp only [List.length_append]
      omega

def stripComments (delimiters : Delimiters) (text : Text) : Text :=
  match _ : delimiters.comment.cutComment? text with
  | none => text
  | some (before, after) => before ++ stripComments delimiters after
termination_by text.length
decreasing_by exact Enclosure.length_of_cutComment? ‹_›

end TemplateTree
