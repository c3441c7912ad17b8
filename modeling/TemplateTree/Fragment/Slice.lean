import TemplateTree.Comment
import TemplateTree.Fragment

/-!
Slices of a text without comments. At each position a variable tag is tried first, then a block
tag; a tag ends at the first closing delimiter behind its opening one and lies on one line. What is
left between the tags is text. The main statement is `flatMap_raw_slices`: no character is lost.
-/
namespace TemplateTree

inductive Slice where
  | text (raw : Text)
  | tag (raw : Text)
deriving DecidableEq

def Slice.raw : Slice → Text
  | text raw => raw
  | tag raw => raw

def Enclosure.tagAt? (enclosure : Enclosure) (text : Text) : Option (Text × Text) :=
  match text.dropPrefix? enclosure.opener.text with
  | none => none
  | some rest =>
      match rest.cutInLine? enclosure.closer.text with
      | none => none
      | some (body, after) => some (enclosure.wrap body, after)

theorem Enclosure.eq_append_of_tagAt? {enclosure : Enclosure} {text raw after : Text}
    (found : enclosure.tagAt? text = some (raw, after)) :
    text = raw ++ after ∧ raw ≠ [] := by
  unfold tagAt? at found
  split at found
  · cases found
  next rest opened =>
    split at found
    · cases found
    next body last closed =>
      obtain ⟨rfl, rfl⟩ : enclosure.wrap body = raw ∧ last = after := by simpa using found
      rw [Text.dropPrefix?_eq_some_iff.mp opened, Text.eq_append_of_cutInLine? closed]
      simp [wrap, enclosure.opener.text_ne_nil]

namespace Delimiters

def tagAt? (delimiters : Delimiters) (text : Text) : Option (Text × Text) :=
  (delimiters.variableTag.tagAt? text).or (delimiters.blockTag.tagAt? text)

theorem eq_append_of_tagAt? {delimiters : Delimiters} {text raw after : Text}
    (found : delimiters.tagAt? text = some (raw, after)) :
    text = raw ++ after ∧ raw ≠ [] := by
  rcases Option.or_eq_some_iff.mp found with first | ⟨-, second⟩
  · exact Enclosure.eq_append_of_tagAt? first
  · exact Enclosure.eq_append_of_tagAt? second

theorem length_of_tagAt? {delimiters : Delimiters} {text raw after : Text}
    (found : delimiters.tagAt? text = some (raw, after)) : after.length < text.length := by
  obtain ⟨rfl, nonempty⟩ := eq_append_of_tagAt? found
  have := List.length_pos_iff.mpr nonempty
  simp only [List.length_append]
  omega

/-- Puts the text that was read (last character first) in front of the slices after it. -/
def textBefore (read : Text) (slices : List Slice) : List Slice :=
  if read = [] then slices else .text read.reverse :: slices

/-- The slices of a text, with the text `read` in front of them (last character first). -/
def slicesFrom (delimiters : Delimiters) (read : Text) : Text → List Slice
  | [] => textBefore read []
  | c :: text =>
      match _ : delimiters.tagAt? (c :: text) with
      | some (raw, after) => textBefore read (.tag raw :: slicesFrom delimiters [] after)
      | none => slicesFrom delimiters (c :: read) text
termination_by text => text.length
decreasing_by
  · exact length_of_tagAt? ‹_›
  · simp

def slices (delimiters : Delimiters) (text : Text) : List Slice :=
  slicesFrom delimiters [] text

theorem flatMap_raw_textBefore (read : Text) (slices : List Slice) :
    (textBefore read slices).flatMap Slice.raw = read.reverse ++ slices.flatMap Slice.raw := by
  unfold textBefore
  split
  next empty => simp [empty]
  next => simp [Slice.raw]

theorem flatMap_raw_slicesFrom (delimiters : Delimiters) (read text : Text) :
    (delimiters.slicesFrom read text).flatMap Slice.raw = read.reverse ++ text := by
  fun_induction slicesFrom delimiters read text with
  | case1 read => simp [flatMap_raw_textBefore]
  | case2 read c text raw after found ih =>
      rw [flatMap_raw_textBefore, List.flatMap_cons, ih, (eq_append_of_tagAt? found).1]
      simp [Slice.raw]
  | case3 read c text missing ih => rw [ih]; simp

theorem flatMap_raw_slices (delimiters : Delimiters) (text : Text) :
    (delimiters.slices text).flatMap Slice.raw = text :=
  flatMap_raw_slicesFrom delimiters [] text

end Delimiters

def Slice.toFragment (delimiters : Delimiters) : Slice → Fragment
  | text raw => .ofText raw
  | tag raw => .classify delimiters raw

def tokenize (delimiters : Delimiters) (text : Text) : List Fragment :=
  (delimiters.slices (stripComments delimiters text)).map (Slice.toFragment delimiters)

end TemplateTree
