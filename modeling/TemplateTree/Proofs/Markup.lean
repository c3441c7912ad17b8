import TemplateTree.Proofs.Blank
import TemplateTree.Proofs.Seam

/-!
# Written markup

A template can be written from texts and from tags with blanks around their contents. The main
statement is `tokenize_flatMap_raw`: such a template has one fragment for each of its parts. So what
it says depends neither on its delimiters nor on its blanks.
-/

namespace TemplateTree

/-- A content with blanks around it, on one line, which the closing delimiter ends. -/
structure Enclosure.Holds (enclosure : Enclosure) (before content after : Text) : Prop where
  trimmed : content.trim = content
  blankBefore : ∀ c ∈ before, Text.isBlank c = true
  blankAfter : ∀ c ∈ after, Text.isBlank c = true
  inLine : '\n' ∉ before ++ (content ++ after)
  ends : ∀ n < (before ++ (content ++ after)).length, ¬ enclosure.closer.text <+:
    (before ++ (content ++ after) ++ enclosure.closer.text).drop n

inductive Markup where
  | text (raw : Text)
  | expression (before content after : Text)
  | block (before content after : Text)

namespace Markup

def isText : Markup → Bool
  | text _ => true
  | _ => false

def raw (delimiters : Delimiters) : Markup → Text
  | text raw => raw
  | expression before content after => delimiters.variableTag.wrap (before ++ (content ++ after))
  | block before content after => delimiters.blockTag.wrap (before ++ (content ++ after))

def slice (delimiters : Delimiters) (markup : Markup) : Slice :=
  if markup.isText then .text (markup.raw delimiters) else .tag (markup.raw delimiters)

def fragment (delimiters : Delimiters) (markup : Markup) : Fragment :=
  match markup with
  | text raw => .ofText raw
  | expression _ content _ => ⟨markup.raw delimiters, .variableTag, content⟩
  | block _ content _ => .ofBlock (markup.raw delimiters) content

def WellFormed (delimiters : Delimiters) : Markup → Prop
  | text raw => raw ≠ [] ∧ ∀ c ∈ raw, c ∉ delimiters.variableTag.opener.text.head? ∧
      c ∉ delimiters.blockTag.opener.text.head?
  | expression before content after => delimiters.variableTag.Holds before content after
  | block before content after => delimiters.blockTag.Holds before content after

end Markup

def Delimiters.Apart (delimiters : Delimiters) : Prop :=
  ¬ delimiters.variableTag.opener.text <+: delimiters.blockTag.opener.text ∧
    ¬ delimiters.blockTag.opener.text <+: delimiters.variableTag.opener.text

variable {delimiters : Delimiters} {enclosure : Enclosure} {before content after : Text}

theorem Enclosure.Holds.tagAt? (holds : enclosure.Holds before content after) (rest : Text) :
    enclosure.tagAt? (enclosure.wrap (before ++ (content ++ after)) ++ rest) =
      some (enclosure.wrap (before ++ (content ++ after)), rest) := by
  obtain ⟨-, -, -, inLine, ends⟩ := holds
  generalize before ++ (content ++ after) = body at inLine ends ⊢
  apply Enclosure.tagAt?_eq_some_iff.mpr
  refine ⟨body, rfl, body ++ (enclosure.closer.text ++ rest), by simp [wrap], rfl, ?_, ?_⟩
  · intro c member
    simp only [bne_iff_ne]
    rintro rfl
    exact inLine member
  · -- the closing delimiter does not reach over its own end
    intro n inside closes
    apply ends n inside
    rw [← List.append_assoc, List.drop_append_of_le_length (by rw [List.length_append]; omega)] at closes
    apply List.prefix_of_prefix_length_le closes (List.prefix_append _ _)
    rw [List.length_drop, List.length_append]
    omega

theorem Enclosure.opener_prefix_wrap (enclosure : Enclosure) (body rest : Text) :
    enclosure.opener.text <+: enclosure.wrap body ++ rest := by
  rw [wrap, List.append_assoc]
  exact List.prefix_append _ _

theorem Delimiters.Apart.not_prefix_wrap (apart : delimiters.Apart) (body rest : Text) :
    ¬ delimiters.variableTag.opener.text <+: delimiters.blockTag.wrap body ++ rest := by
  intro opens
  have opensToo := delimiters.blockTag.opener_prefix_wrap body rest
  rcases List.prefix_or_prefix_of_prefix opens opensToo with first | second
  · exact apart.1 first
  · exact apart.2 second

theorem Enclosure.tagAt?_of_not_prefix {text : Text} (missing : ¬ enclosure.opener.text <+: text) :
    enclosure.tagAt? text = none := by
  rw [tagAt?, Text.dropPrefix?_eq_none_iff.mpr missing]

theorem tagAt?_raw {markup : Markup} (apart : delimiters.Apart) (wellFormed : markup.WellFormed delimiters)
    (isTag : markup.isText = false) (rest : Text) :
    delimiters.tagAt? (markup.raw delimiters ++ rest) = some (markup.raw delimiters, rest) := by
  cases markup with
  | text raw => cases isTag
  | expression before content after =>
      rw [Delimiters.tagAt?, Markup.raw, Enclosure.Holds.tagAt? wellFormed, Option.some_or]
  | block before content after =>
      rw [Delimiters.tagAt?, Markup.raw, Enclosure.tagAt?_of_not_prefix (apart.not_prefix_wrap _ _),
        Option.none_or]
      exact Enclosure.Holds.tagAt? wellFormed rest

theorem not_spans_of_head {text : Text} {n stop : Nat} {c : Char} (here : text[n]? = some c)
    (other : c ∉ enclosure.opener.text.head?) : ¬ enclosure.Spans text n stop := by
  rintro ⟨⟨rest, opens⟩, -⟩
  cases opener : enclosure.opener.text with
  | nil => exact enclosure.opener.text_ne_nil opener
  | cons d tail =>
      rw [← List.head?_drop, ← opens, opener] at here
      obtain rfl := Option.some.inj here
      rw [opener] at other
      exact other rfl

theorem fits_raw {raw rest : Text} (wellFormed : (Markup.text raw).WellFormed delimiters) :
    (Slice.text raw).Fits delimiters (raw ++ rest) 0 := by
  intro n inside stop spans
  rw [Nat.zero_add] at spans
  have here : (raw ++ rest)[n]? = some raw[n] := by
    rw [List.getElem?_append_left inside, List.getElem?_eq_getElem]
  obtain ⟨notVariable, notBlock⟩ := wellFormed.2 raw[n] (List.getElem_mem inside)
  rcases spans with spans | ⟨-, spans⟩
  · exact not_spans_of_head here notVariable spans
  · exact not_spans_of_head here notBlock spans

theorem slices_flatMap_raw {markups : List Markup} (apart : delimiters.Apart)
    (wellFormed : ∀ markup ∈ markups, markup.WellFormed delimiters)
    (separated : markups.IsChain fun first second => first.isText = false ∨ second.isText = false) :
    delimiters.slices (markups.flatMap (Markup.raw delimiters)) =
      markups.map (Markup.slice delimiters) := by
  induction markups with
  | nil => exact Delimiters.slices_nil
  | cons markup markups ih =>
      obtain ⟨here, behind⟩ := List.forall_mem_cons.mp wellFormed
      obtain ⟨next, separated⟩ := List.isChain_cons.mp separated
      have rest := ih behind separated
      rw [List.flatMap_cons, List.map_cons]
      cases isText : markup.isText with
      | false =>
          rw [Delimiters.slices_of_tagAt? (tagAt?_raw apart here isText _), rest, Markup.slice, isText]
          rfl
      | true =>
          cases markup with
          | expression => cases isText
          | block => cases isText
          | text raw =>
              rw [Markup.raw, Delimiters.slices_append_of_untagged (fits_raw here), rest]
              cases markups with
              | nil => exact if_neg here.1
              | cons second markups =>
                  have isTag : second.isText = false := by simpa [Markup.isText] using next second rfl
                  rw [List.map_cons, Markup.slice, Markup.slice, isTag]
                  exact if_neg here.1

theorem toFragment_slice {markup : Markup} (apart : delimiters.Apart)
    (wellFormed : markup.WellFormed delimiters) :
    (markup.slice delimiters).toFragment delimiters = markup.fragment delimiters := by
  cases markup with
  | text raw => rfl
  | expression before content after =>
      have trimmed : (before ++ (content ++ after)).trim = content := by
        rw [Text.trim_pad wellFormed.blankBefore wellFormed.blankAfter, wellFormed.trimmed]
      have inside := Enclosure.unwrap?_eq_some_iff.mpr
        (rfl : (Markup.expression before content after).raw delimiters = _)
      change Fragment.classify delimiters _ = _
      rw [Fragment.classify, inside]
      dsimp only
      rw [trimmed]
      rfl
  | block before content after =>
      have trimmed : (before ++ (content ++ after)).trim = content := by
        rw [Text.trim_pad wellFormed.blankBefore wellFormed.blankAfter, wellFormed.trimmed]
      have inside := Enclosure.unwrap?_eq_some_iff.mpr
        (rfl : (Markup.block before content after).raw delimiters = _)
      have notVariable : delimiters.variableTag.unwrap?
          ((Markup.block before content after).raw delimiters) = none := by
        rw [Enclosure.unwrap?, Text.dropPrefix?_eq_none_iff.mpr, Option.bind_none]
        have outside := apart.not_prefix_wrap (before ++ (content ++ after)) []
        rwa [List.append_nil] at outside
      change Fragment.classify delimiters _ = _
      rw [Fragment.classify, notVariable, inside]
      dsimp only
      rw [trimmed]
      rfl

theorem tokenize_flatMap_raw {markups : List Markup} (apart : delimiters.Apart)
    (wellFormed : ∀ markup ∈ markups, markup.WellFormed delimiters)
    (separated : markups.IsChain fun first second => first.isText = false ∨ second.isText = false)
    (uncommented : ¬ delimiters.comment.opener.text <:+: markups.flatMap (Markup.raw delimiters)) :
    tokenize delimiters (markups.flatMap (Markup.raw delimiters)) =
      markups.map (Markup.fragment delimiters) := by
  rw [tokenize, stripComments_of_unopened uncommented, slices_flatMap_raw apart wellFormed separated,
    List.map_map]
  apply List.map_congr_left
  intro markup member
  exact toFragment_slice apart (wellFormed markup member)

/-! ## Other delimiters and paddings -/

def Fragment.startsWithEnd (content : Text) : Bool :=
  content.words.head?.any fun word => (word.dropPrefix? endWord).any (·.all Text.isWordChar)

theorem Fragment.isClosingTag_eq (trimmed : content.Trimmed) :
    isClosingTag content = startsWithEnd content := by
  rw [Bool.eq_iff_iff, isClosingTag_iff trimmed]
  simp only [startsWithEnd, Option.any_eq_true, Text.dropPrefix?_eq_some_iff, List.all_eq_true]
  constructor
  · rintro ⟨behind, first, words⟩
    exact ⟨_, first, behind, rfl, words⟩
  · rintro ⟨word, first, behind, rfl, words⟩
    exact ⟨behind, first, words⟩

namespace Markup

def clean : Markup → Text
  | text raw => raw
  | expression _ content _ => content
  | block _ content _ => content

def kind : Markup → FragmentKind
  | text _ => .text
  | expression _ _ _ => .variableTag
  | block _ content _ => if Fragment.startsWithEnd content then .closeTag else .openTag

def unpadded : Markup → Markup
  | text raw => text raw
  | expression _ content _ => expression [] content []
  | block _ content _ => block [] content []

/-- What a part says, whatever its delimiters are and however it is padded. -/
def meaning (markup : Markup) : FragmentKind × Text := (markup.kind, markup.clean)

@[simp] theorem meaning_unpadded (markup : Markup) : markup.unpadded.meaning = markup.meaning := by
  cases markup <;> rfl

theorem fragment_eq {markup : Markup} (wellFormed : markup.WellFormed delimiters) :
    markup.fragment delimiters = ⟨markup.raw delimiters, markup.kind, markup.clean⟩ := by
  cases markup with
  | text raw => rfl
  | expression before content after => rfl
  | block before content after =>
      have trimmed : content.Trimmed := Text.trim_eq_self_iff.mp wellFormed.trimmed
      simp only [fragment, Fragment.ofBlock, Fragment.isClosingTag_eq trimmed]
      rfl

structure Template (delimiters : Delimiters) (markups : List Markup) : Prop where
  apart : delimiters.Apart
  wellFormed : ∀ markup ∈ markups, markup.WellFormed delimiters
  separated : markups.IsChain fun first second => first.isText = false ∨ second.isText = false
  uncommented : ¬ delimiters.comment.opener.text <:+: markups.flatMap (raw delimiters)

theorem Template.tokenize_eq {markups : List Markup} (template : Template delimiters markups) :
    tokenize delimiters (markups.flatMap (raw delimiters)) =
      markups.map fun markup => ⟨markup.raw delimiters, markup.kind, markup.clean⟩ := by
  rw [tokenize_flatMap_raw template.apart template.wellFormed template.separated template.uncommented]
  apply List.map_congr_left
  intro markup member
  exact fragment_eq (template.wellFormed markup member)

theorem Template.meanings_eq {markups : List Markup} (template : Template delimiters markups) :
    (tokenize delimiters (markups.flatMap (raw delimiters))).map (fun fragment =>
      (fragment.kind, fragment.clean)) = (markups.map unpadded).map meaning := by
  rw [template.tokenize_eq, List.map_map, List.map_map]
  apply List.map_congr_left
  intro markup _
  exact (meaning_unpadded markup).symm

/-- A written template has one fragment for each of its parts, as it is written; kinds and contents
are the same with other delimiters and other blanks around the contents. -/
theorem tokenize_template {markups : List Markup} (template : Template delimiters markups) :
    tokenize delimiters (markups.flatMap (raw delimiters)) =
      markups.map (fun markup => ⟨markup.raw delimiters, markup.kind, markup.clean⟩) ∧
    ∀ delimiters' markups', Template delimiters' markups' →
      markups'.map unpadded = markups.map unpadded →
      (tokenize delimiters' (markups'.flatMap (raw delimiters'))).map (fun fragment =>
          (fragment.kind, fragment.clean)) =
        (tokenize delimiters (markups.flatMap (raw delimiters))).map fun fragment =>
          (fragment.kind, fragment.clean) := by
  refine ⟨template.tokenize_eq, ?_⟩
  intro delimiters' markups' template' same
  rw [template'.meanings_eq, template.meanings_eq, same]

def angled : Delimiters where
  comment := ⟨.pair '(' '*', .pair '*' ')'⟩
  variableTag := ⟨.pair '<' '<', .pair '>' '>'⟩
  blockTag := ⟨.pair '<' '%', .pair '%' '%'⟩

theorem tokenize_template_angled :
    Template angled
      [.text ['a'], .block [' '] "endif x".toList ['\t'], .expression [] "f(<%)".toList [' ']] ∧
    tokenize angled "a<% endif x\t%%<<f(<%) >>".toList =
      [⟨['a'], .text, ['a']⟩, ⟨"<% endif x\t%%".toList, .closeTag, "endif x".toList⟩,
        ⟨"<<f(<%) >>".toList, .variableTag, "f(<%)".toList⟩] ∧
    (tokenize .standard "a\x7b%endif x%\x7d\x7b\x7b f(<%)\x7d\x7d".toList).map (fun fragment =>
        (fragment.kind, fragment.clean)) =
      (tokenize angled "a<% endif x\t%%<<f(<%) >>".toList).map fun fragment =>
        (fragment.kind, fragment.clean) := by
  have block : angled.blockTag.Holds [' '] "endif x".toList ['\t'] :=
    ⟨by decide, List.all_eq_true.mp rfl, List.all_eq_true.mp rfl, by decide, by decide⟩
  have expression : angled.variableTag.Holds [] "f(<%)".toList [' '] :=
    ⟨by decide, List.all_eq_true.mp rfl, List.all_eq_true.mp rfl, by decide, by decide⟩
  have template : Template angled
      [.text ['a'], .block [' '] "endif x".toList ['\t'], .expression [] "f(<%)".toList [' ']] := by
    refine ⟨by unfold Delimiters.Apart; decide, ?_, ?_, by decide +kernel⟩
    · simp only [List.forall_mem_cons]
      exact ⟨⟨by decide, List.forall_mem_singleton.mpr (by decide)⟩, block, expression, List.forall_mem_nil _⟩
    · exact .cons_cons (.inr rfl) (.cons_cons (.inl rfl) (.singleton _))
  have block' : Delimiters.standard.blockTag.Holds [] "endif x".toList [] :=
    ⟨by decide, List.all_eq_true.mp rfl, List.all_eq_true.mp rfl, by decide, by decide⟩
  have expression' : Delimiters.standard.variableTag.Holds [' '] "f(<%)".toList [] :=
    ⟨by decide, List.all_eq_true.mp rfl, List.all_eq_true.mp rfl, by decide, by decide⟩
  have template' : Template .standard
      [.text ['a'], .block [] "endif x".toList [], .expression [' '] "f(<%)".toList []] := by
    refine ⟨by unfold Delimiters.Apart; decide, ?_, ?_, by decide +kernel⟩
    · simp only [List.forall_mem_cons]
      exact ⟨⟨by decide, List.forall_mem_singleton.mpr (by decide)⟩, block', expression', List.forall_mem_nil _⟩
    · exact .cons_cons (.inr rfl) (.cons_cons (.inl rfl) (.singleton _))
  have both := tokenize_template template
  exact ⟨template, both.1, both.2 _ _ template' rfl⟩

end Markup

end TemplateTree
