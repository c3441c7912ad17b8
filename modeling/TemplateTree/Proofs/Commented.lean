import TemplateTree.Compile
import TemplateTree.Proofs.Seam

/-!
# Texts with their comments

Every text can be written in exactly one way with leftmost and shortest comments, and removing comments
keeps what stands around these. `tokenize_commented` also says when the fragments and the tree of a text are
those of what is kept.
-/

namespace TemplateTree

/-- A text with its comments: first the text before a comment and the body of the comment, then what
follows; or a text that has no more comments. -/
inductive Commented where
  | plain (text : Text)
  | comment (before body : Text) (behind : Commented)

namespace Commented

def text (enclosure : Enclosure) : Commented → Text
  | plain text => text
  | comment before body behind => before ++ (enclosure.wrap body ++ behind.text enclosure)

def kept : Commented → Text
  | plain text => text
  | comment before _ behind => before ++ behind.kept

/-- Each comment begins at the first opening delimiter and ends at the first closing one behind it.
Behind the last comment, nothing closes an opening delimiter. -/
inductive Leftmost (enclosure : Enclosure) : Commented → Prop
  | plain {text : Text} (missing : ¬ enclosure.OccursIn text) : Leftmost enclosure (.plain text)
  | comment {before body : Text} {behind : Commented}
      (begins : Text.OnlyAtEnd enclosure.opener.text before)
      (ends : Text.OnlyAtEnd enclosure.closer.text body) (leftmost : Leftmost enclosure behind) :
      Leftmost enclosure (.comment before body behind)

variable {enclosure : Enclosure} {commented other : Commented}

theorem exists_leftmost (enclosure : Enclosure) (text : Text) :
    ∃ commented : Commented, commented.text enclosure = text ∧ commented.Leftmost enclosure := by
  induction text using Enclosure.parts.induct enclosure with
  | case1 text uncut => exact ⟨.plain text, rfl, .plain (Enclosure.cutComment?_eq_none_iff.mp uncut)⟩
  | case2 text before after found ih =>
      obtain ⟨body, rfl, begins, ends⟩ := Enclosure.cutComment?_eq_some_iff.mp found
      obtain ⟨behind, rfl, leftmost⟩ := ih
      exact ⟨.comment before body behind, rfl, .comment begins ends leftmost⟩

theorem cutComment?_text {before body : Text} (begins : Text.OnlyAtEnd enclosure.opener.text before)
    (ends : Text.OnlyAtEnd enclosure.closer.text body) (behind : Commented) :
    enclosure.cutComment? ((Commented.comment before body behind).text enclosure) =
      some (before, behind.text enclosure) :=
  Enclosure.cutComment?_eq_some_iff.mpr ⟨body, rfl, begins, ends⟩

theorem Leftmost.unique (leftmost : commented.Leftmost enclosure) (leftmost' : other.Leftmost enclosure)
    (same : commented.text enclosure = other.text enclosure) : commented = other := by
  induction leftmost generalizing other with
  | plain missing =>
      cases leftmost' with
      | plain _ => exact congrArg Commented.plain same
      | @comment _ _ behind begins ends _ =>
          have cut := cutComment?_text begins ends behind
          rw [← same, text, Enclosure.cutComment?_eq_none_iff.mpr missing] at cut
          cases cut
  | @comment before body behind begins ends leftmost ih =>
      have cut := cutComment?_text begins ends behind
      cases leftmost' with
      | plain missing =>
          rw [same, text, Enclosure.cutComment?_eq_none_iff.mpr missing] at cut
          cases cut
      | @comment before' body' behind' begins' ends' leftmost' =>
          rw [same, cutComment?_text begins' ends' behind'] at cut
          obtain ⟨rfl, rest⟩ := Prod.mk.inj (Option.some.inj cut)
          simp only [text, Enclosure.wrap, rest, List.append_cancel_left_eq, List.append_cancel_right_eq]
            at same
          rw [same, ih leftmost' rest.symm]

theorem Leftmost.stripComments_text {delimiters : Delimiters}
    (leftmost : commented.Leftmost delimiters.comment) :
    stripComments delimiters (commented.text delimiters.comment) = commented.kept := by
  induction leftmost with
  | plain missing => exact stripComments_eq_self_iff.mpr missing
  | comment begins ends _ ih => rw [stripComments_of_cut (cutComment?_text begins ends _), ih, kept]

end Commented

/-- There is exactly one way to write a text with leftmost comments, and removing comments keeps what
stands around them. If no comment begins in that, it has the fragments and the tree of the text. -/
theorem tokenize_commented (delimiters : Delimiters) (text : Text) :
    (∃! commented : Commented, commented.text delimiters.comment = text ∧
      commented.Leftmost delimiters.comment) ∧
    ∀ commented : Commented, commented.text delimiters.comment = text →
      commented.Leftmost delimiters.comment →
      stripComments delimiters text = commented.kept ∧
      (¬ delimiters.comment.opener.text <:+: commented.kept →
        tokenize delimiters text = tokenize delimiters commented.kept ∧
        ∀ (compiler : Compiler) (sourceId : Text), compiler.config.delimiters = delimiters →
          compiler.compile text sourceId = compiler.compile commented.kept sourceId) := by
  refine ⟨?_, ?_⟩
  · obtain ⟨commented, written, leftmost⟩ := Commented.exists_leftmost delimiters.comment text
    refine ⟨commented, ⟨written, leftmost⟩, ?_⟩
    rintro other ⟨written', leftmost'⟩
    exact leftmost'.unique leftmost (written'.trans written.symm)
  · rintro commented rfl leftmost
    have stripped := leftmost.stripComments_text
    refine ⟨stripped, fun unopened => ?_⟩
    have same : tokenize delimiters (commented.text delimiters.comment) =
        tokenize delimiters commented.kept := by
      rw [tokenize, tokenize, stripped, stripComments_of_unopened unopened]
    refine ⟨same, ?_⟩
    rintro compiler sourceId rfl
    rw [Compiler.compile, Compiler.compile, Compiler.tokenize, Compiler.tokenize, same]

theorem tokenize_commented_tag :
    stripComments .standard "\x7b# c #\x7d\x7b\x7b x \x7d\x7d".toList = "\x7b\x7b x \x7d\x7d".toList ∧
    tokenize .standard "\x7b# c #\x7d\x7b\x7b x \x7d\x7d".toList =
      tokenize .standard "\x7b\x7b x \x7d\x7d".toList ∧
    ({} : Compiler).compile "\x7b# c #\x7d\x7b\x7b x \x7d\x7d".toList [] =
      ({} : Compiler).compile "\x7b\x7b x \x7d\x7d".toList [] := by
  have begins : Text.OnlyAtEnd Delimiters.standard.comment.opener.text [] := by
    have found : Text.cut? "\x7b#".toList "\x7b#".toList = some ([], []) := rfl
    exact (Text.cut?_eq_some_iff_onlyAtEnd.mp found).2
  have ends : Text.OnlyAtEnd Delimiters.standard.comment.closer.text " c ".toList := by
    have found : Text.cut? " c #\x7d".toList "#\x7d".toList = some (" c ".toList, []) := rfl
    exact (Text.cut?_eq_some_iff_onlyAtEnd.mp found).2
  have uncut : Delimiters.standard.comment.cutComment? "\x7b\x7b x \x7d\x7d".toList = none := rfl
  have written := (tokenize_commented .standard "\x7b# c #\x7d\x7b\x7b x \x7d\x7d".toList).2
  obtain ⟨stripped, same⟩ := written (.comment [] " c ".toList (.plain "\x7b\x7b x \x7d\x7d".toList))
    rfl (.comment begins ends (.plain (Enclosure.cutComment?_eq_none_iff.mp uncut)))
  have unopened : Text.cut? "\x7b\x7b x \x7d\x7d".toList "\x7b#".toList = none := rfl
  obtain ⟨fragments, compiled⟩ := same (Text.cut?_eq_none_iff.mp unopened)
  exact ⟨stripped, fragments, compiled {} [] rfl⟩

end TemplateTree
