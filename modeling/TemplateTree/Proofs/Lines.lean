import TemplateTree.Proofs.Seam

/-!
# Templates line by line

No tag runs over a line break, so a broken tag does no harm on other lines. The main statement is
`tokenize_line_break`: the fragments of two parts of a text, with the line break between them as text,
are the fragments of the whole once neighbouring texts are joined.
-/

namespace TemplateTree

def Enclosure.InLine (enclosure : Enclosure) : Prop :=
  '\n' ∉ enclosure.opener.text ∧ '\n' ∉ enclosure.closer.text

def Delimiters.InLine (delimiters : Delimiters) : Prop :=
  delimiters.variableTag.InLine ∧ delimiters.blockTag.InLine

/-! ## Scanning up to a line break -/

section

variable {delimiters : Delimiters} {enclosure : Enclosure} {text mark rest raw after : Text}

theorem Text.dropPrefix?_line (inLine : '\n' ∉ mark) :
    (text ++ '\n' :: rest).dropPrefix? mark = (text.dropPrefix? mark).map (· ++ '\n' :: rest) := by
  induction mark generalizing text with
  | nil => simp [dropPrefix?]
  | cons d mark ih =>
      rw [List.mem_cons, not_or] at inLine
      obtain ⟨other, behind⟩ := inLine
      cases text with
      | nil => simp [dropPrefix?, other]
      | cons c text => by_cases same : c = d <;> simp [dropPrefix?, same, ih behind]

theorem Text.cutFrom?_line {before : Text} (filled : mark ≠ []) (inLine : '\n' ∉ mark) :
    cutFrom? (· != '\n') mark before (text ++ '\n' :: rest) =
      (cutFrom? (· != '\n') mark before text).map fun (front, after) => (front, after ++ '\n' :: rest) := by
  have missing : dropPrefix? [] mark = none := by
    cases mark with
    | nil => exact absurd rfl filled
    | cons d mark => rfl
  induction text generalizing before with
  | nil =>
      rw [cutFrom?.eq_def, cutFrom?.eq_def, Text.dropPrefix?_line inLine, missing]
      simp
  | cons c text ih =>
      rw [cutFrom?.eq_def, cutFrom?.eq_def, Text.dropPrefix?_line inLine]
      cases dropPrefix? (c :: text) mark with
      | some after => rfl
      | none => by_cases feed : c = '\n' <;> simp [feed, ih]

theorem Enclosure.tagAt?_line (inLine : enclosure.InLine) (text rest : Text) :
    enclosure.tagAt? (text ++ '\n' :: rest) =
      (enclosure.tagAt? text).map fun (raw, after) => (raw, after ++ '\n' :: rest) := by
  unfold tagAt?
  rw [Text.dropPrefix?_line inLine.1]
  cases text.dropPrefix? enclosure.opener.text with
  | none => rfl
  | some behind =>
      dsimp only [Option.map_some]
      rw [Text.cutInLine?, Text.cutFrom?_line enclosure.closer.text_ne_nil inLine.2, Text.cutInLine?]
      cases Text.cutFrom? (· != '\n') enclosure.closer.text [] behind with
      | none => rfl
      | some cut => rfl

theorem Delimiters.tagAt?_line (inLine : delimiters.InLine) (text rest : Text) :
    delimiters.tagAt? (text ++ '\n' :: rest) =
      (delimiters.tagAt? text).map fun (raw, after) => (raw, after ++ '\n' :: rest) := by
  rw [tagAt?, tagAt?, Enclosure.tagAt?_line inLine.1, Enclosure.tagAt?_line inLine.2]
  cases delimiters.variableTag.tagAt? text <;> rfl

theorem Delimiters.tagAt?_nil : delimiters.tagAt? [] = none := by
  cases found : delimiters.tagAt? [] with
  | none => rfl
  | some tag =>
      obtain ⟨joined, filled⟩ := eq_append_of_tagAt? found
      exact absurd (List.append_eq_nil_iff.mp joined.symm).1 filled

theorem Enclosure.notMem_of_tagAt? (inLine : enclosure.InLine)
    (found : enclosure.tagAt? text = some (raw, after)) : '\n' ∉ raw := by
  obtain ⟨body, rfl, rest, -, cut⟩ := tagAt?_eq_some_iff.mp found
  have inBody : '\n' ∉ body := fun member => by simpa using cut.passed _ member
  simp [wrap, inLine.1, inLine.2, inBody]

theorem Delimiters.notMem_of_tagAt? (inLine : delimiters.InLine)
    (found : delimiters.tagAt? text = some (raw, after)) : '\n' ∉ raw := by
  rcases Option.or_eq_some_iff.mp found with first | ⟨-, second⟩
  · exact Enclosure.notMem_of_tagAt? inLine.1 first
  · exact Enclosure.notMem_of_tagAt? inLine.2 second

end

/-! ## Joining texts -/

/-- A slice in front of others; text joins the text that stands first. -/
def Slice.join : Slice → List Slice → List Slice
  | text raw, slices => Delimiters.joinText raw slices
  | tag raw, slices => tag raw :: slices

def Fragment.join (fragment : Fragment) : List Fragment → List Fragment
  | [] => [fragment]
  | next :: fragments =>
      if fragment.isTag || next.isTag then fragment :: next :: fragments
      else .ofText (fragment.raw ++ next.raw) :: fragments

def Fragment.joinAll (fragments : List Fragment) : List Fragment :=
  fragments.foldr join []

theorem Fragment.filter_isTag_join (fragment : Fragment) (fragments : List Fragment) :
    (fragment.join fragments).filter isTag = (fragment :: fragments).filter isTag := by
  cases fragments with
  | nil => rfl
  | cons next others =>
      rw [join]
      split
      · rfl
      next plain =>
        obtain ⟨here, behind⟩ := Bool.or_eq_false_iff.mp (Bool.eq_false_iff.mpr plain)
        have joined : (ofText (fragment.raw ++ next.raw)).isTag = false := rfl
        simp [here, behind, joined]

theorem Fragment.filter_isTag_joinAll (fragments : List Fragment) :
    (joinAll fragments).filter isTag = fragments.filter isTag := by
  induction fragments with
  | nil => rfl
  | cons fragment fragments ih =>
      change (fragment.join (joinAll fragments)).filter isTag = _
      rw [filter_isTag_join, List.filter_cons, List.filter_cons, ih]

section

open Delimiters

variable {delimiters : Delimiters} {text rest : Text} {slice : Slice} {slices : List Slice}

theorem foldr_join_joinText (raw : Text) (slices tail : List Slice) :
    (joinText raw slices).foldr Slice.join tail = joinText raw (slices.foldr Slice.join tail) := by
  cases slices with
  | nil =>
      by_cases empty : raw = []
      · subst empty
        rw [joinText_nil, List.foldr_nil, joinText_nil]
      · rw [joinText, if_neg empty]
        · rfl
        · simp
  | cons slice slices =>
      cases slice with
      | text first => exact (joinText_joinText raw first _).symm
      | tag first => by_cases empty : raw = [] <;> simp [joinText, Slice.join, empty]

theorem foldr_join_slices (text : Text) :
    (delimiters.slices text).foldr Slice.join [] = delimiters.slices text := by
  induction text using scan_induction delimiters with
  | nil => rw [slices_nil, List.foldr_nil]
  | plain c text missing ih => rw [slices_of_no_tag missing, foldr_join_joinText, ih]
  | tag text raw after found ih =>
      rw [slices_of_tagAt? found, List.foldr_cons, ih]
      rfl

theorem slices_line (inLine : delimiters.InLine) (text rest : Text) :
    delimiters.slices (text ++ '\n' :: rest) =
      (delimiters.slices text ++ .text ['\n'] :: delimiters.slices rest).foldr Slice.join [] := by
  induction text using scan_induction delimiters with
  | nil =>
      have missing : delimiters.tagAt? ([] ++ '\n' :: rest) = none := by
        rw [tagAt?_line inLine, tagAt?_nil, Option.map_none]
      rw [List.nil_append] at missing ⊢
      rw [slices_of_no_tag missing, slices_nil, List.nil_append, List.foldr_cons, foldr_join_slices]
      rfl
  | plain c text missing ih =>
      have same := tagAt?_line inLine (c :: text) rest
      rw [missing, List.cons_append] at same
      rw [List.cons_append, slices_of_no_tag same, ih, slices_of_no_tag missing, List.foldr_append,
        List.foldr_append, foldr_join_joinText]
  | tag text raw after found ih =>
      have same := tagAt?_line inLine text rest
      rw [found] at same
      rw [slices_of_tagAt? same, ih, slices_of_tagAt? found]
      rfl

def Slice.Sound (delimiters : Delimiters) (slice : Slice) : Prop :=
  slice.raw ≠ [] ∧ (slice.toFragment delimiters).isTag = slice.isTag

theorem sound_slices (member : slice ∈ delimiters.slices text) : slice.Sound delimiters := by
  have factors : Factorization delimiters text (delimiters.slices text) := factorization_slices text
  refine ⟨factors.nonempty slice member, ?_⟩
  cases slice with
  | text raw => rfl
  | tag raw =>
      obtain ⟨body, wrapped⟩ := factors.exists_wrap member
      exact isTag_classify_of_wrap wrapped

theorem Slice.Sound.join (here : slice.Sound delimiters)
    (behind : ∀ next ∈ slices, next.Sound delimiters) :
    (∀ next ∈ slice.join slices, next.Sound delimiters) ∧
      (slice.join slices).map (Slice.toFragment delimiters) =
        (slice.toFragment delimiters).join (slices.map (Slice.toFragment delimiters)) := by
  cases slice with
  | tag raw =>
      refine ⟨List.forall_mem_cons.mpr ⟨here, behind⟩, ?_⟩
      have isTag : ((Slice.tag raw).toFragment delimiters).isTag = true := here.2
      cases slices with
      | nil => rfl
      | cons next slices => simp [Slice.join, Fragment.join, isTag]
  | text raw =>
      have filled : raw ≠ [] := here.1
      cases slices with
      | nil => simp [Slice.join, joinText, filled, here, Fragment.join]
      | cons next slices =>
          obtain ⟨first, others⟩ := List.forall_mem_cons.mp behind
          cases next with
          | text other =>
              have joined : (Slice.text (raw ++ other)).Sound delimiters :=
                ⟨List.append_ne_nil_of_left_ne_nil filled other, rfl⟩
              exact ⟨List.forall_mem_cons.mpr ⟨joined, others⟩, rfl⟩
          | tag other =>
              have isTag : ((Slice.tag other).toFragment delimiters).isTag = true := first.2
              simp only [Slice.join, joinText, filled, if_false]
              refine ⟨List.forall_mem_cons.mpr ⟨here, List.forall_mem_cons.mpr ⟨first, others⟩⟩, ?_⟩
              simp [Fragment.join, isTag]

theorem map_toFragment_foldr_join (all : ∀ slice ∈ slices, slice.Sound delimiters) :
    (∀ slice ∈ slices.foldr Slice.join [], slice.Sound delimiters) ∧
      (slices.foldr Slice.join []).map (Slice.toFragment delimiters) =
        Fragment.joinAll (slices.map (Slice.toFragment delimiters)) := by
  induction slices with
  | nil => exact ⟨List.forall_mem_nil _, rfl⟩
  | cons slice slices ih =>
      obtain ⟨here, behind⟩ := List.forall_mem_cons.mp all
      obtain ⟨sound, same⟩ := ih behind
      obtain ⟨sound, joined⟩ := here.join sound
      refine ⟨sound, joined.trans ?_⟩
      rw [same]
      rfl

theorem notMem_of_mem_tokenize (inLine : delimiters.InLine) {fragment : Fragment}
    (member : fragment ∈ tokenize delimiters text) (isTag : fragment.isTag = true) : '\n' ∉ fragment.raw := by
  obtain ⟨slice, found, rfl⟩ := List.mem_map.mp member
  cases slice with
  | text raw => cases isTag
  | tag raw =>
      obtain ⟨front, back, split⟩ := List.append_of_mem found
      have factors : Factorization delimiters _ (delimiters.slices (stripComments delimiters text)) :=
        factorization_slices _
      change '\n' ∉ (Fragment.classify delimiters raw).raw
      rw [classify_raw]
      exact notMem_of_tagAt? inLine (factors.tagAt?_of_split split)

/-- The tags of two parts of a text that a line break parts are the tags of the whole, each on one line;
the texts next to the line break are joined with it. -/
theorem tokenize_line_break (inLine : delimiters.InLine)
    (uncommented : ¬ delimiters.comment.opener.text <:+: text ++ '\n' :: rest) :
    (tokenize delimiters (text ++ '\n' :: rest)).filter Fragment.isTag =
        (tokenize delimiters text).filter Fragment.isTag ++
          (tokenize delimiters rest).filter Fragment.isTag ∧
      (∀ fragment ∈ tokenize delimiters (text ++ '\n' :: rest), fragment.isTag = true →
        '\n' ∉ fragment.raw) ∧
      tokenize delimiters (text ++ '\n' :: rest) = Fragment.joinAll
        (tokenize delimiters text ++ .ofText ['\n'] :: tokenize delimiters rest) := by
  have whole : tokenize delimiters (text ++ '\n' :: rest) = Fragment.joinAll
      (tokenize delimiters text ++ .ofText ['\n'] :: tokenize delimiters rest) := by
    have uncommented₁ : ¬ delimiters.comment.opener.text <:+: text :=
      mt (·.trans (List.prefix_append _ _).isInfix) uncommented
    have uncommented₂ : ¬ delimiters.comment.opener.text <:+: rest :=
      mt (·.trans ((List.suffix_cons _ _).trans (List.suffix_append _ _)).isInfix) uncommented
    have sound : ∀ slice ∈ delimiters.slices text ++ .text ['\n'] :: delimiters.slices rest,
        slice.Sound delimiters := by
      have feed : (Slice.text ['\n']).Sound delimiters := ⟨List.cons_ne_nil _ _, rfl⟩
      exact List.forall_mem_append.mpr
        ⟨fun _ => sound_slices, List.forall_mem_cons.mpr ⟨feed, fun _ => sound_slices⟩⟩
    rw [tokenize, tokenize, tokenize, stripComments_of_unopened uncommented,
      stripComments_of_unopened uncommented₁, stripComments_of_unopened uncommented₂,
      slices_line inLine, (map_toFragment_foldr_join sound).2, List.map_append, List.map_cons]
    rfl
  refine ⟨?_, fun fragment => notMem_of_mem_tokenize inLine, whole⟩
  rw [whole, Fragment.filter_isTag_joinAll, List.filter_append]
  rfl

theorem tokenize_line_break_broken :
    Delimiters.standard.InLine ∧
      ¬ Delimiters.standard.comment.opener.text <:+: "\x7b%\n%\x7d\x7b\x7b b \x7d\x7d".toList ∧
      tokenize .standard "\x7b%\n%\x7d\x7b\x7b b \x7d\x7d".toList =
        [.ofText "\x7b%\n%\x7d".toList, ⟨"\x7b\x7b b \x7d\x7d".toList, .variableTag, ['b']⟩] := by
  have inLine : Delimiters.standard.InLine := by
    unfold Delimiters.InLine Enclosure.InLine
    decide
  have uncut : Text.cut? (['{', '%'] ++ '\n' :: "%\x7d\x7b\x7b b \x7d\x7d".toList)
      Delimiters.standard.comment.opener.text = none := rfl
  have uncommented := Text.cut?_eq_none_iff.mp uncut
  have before : tokenize .standard ['{', '%'] = [.ofText ['{', '%']] := by
    have first : Delimiters.standard.tagAt? ['{', '%'] = none := rfl
    have second : Delimiters.standard.tagAt? ['%'] = none := rfl
    rw [tokenize, stripComments_of_unopened (by decide), slices_of_no_tag first, slices_of_no_tag second,
      slices_nil]
    rfl
  have behind : tokenize .standard "%\x7d\x7b\x7b b \x7d\x7d".toList =
      [.ofText ['%', '}'], ⟨"\x7b\x7b b \x7d\x7d".toList, .variableTag, ['b']⟩] := by
    have first : Delimiters.standard.tagAt? ('%' :: '}' :: "\x7b\x7b b \x7d\x7d".toList) = none := rfl
    have second : Delimiters.standard.tagAt? ('}' :: "\x7b\x7b b \x7d\x7d".toList) = none := rfl
    have third : Delimiters.standard.tagAt? "\x7b\x7b b \x7d\x7d".toList =
        some ("\x7b\x7b b \x7d\x7d".toList, []) := rfl
    have uncut : Text.cut? "%\x7d\x7b\x7b b \x7d\x7d".toList Delimiters.standard.comment.opener.text =
        none := rfl
    rw [tokenize, stripComments_of_unopened (Text.cut?_eq_none_iff.mp uncut)]
    change (Delimiters.standard.slices ('%' :: '}' :: "\x7b\x7b b \x7d\x7d".toList)).map _ = _
    rw [slices_of_no_tag first, slices_of_no_tag second,
      slices_of_tagAt? third, slices_nil]
    rfl
  have whole := (tokenize_line_break inLine uncommented).2.2
  rw [before, behind] at whole
  exact ⟨inLine, uncommented, whole⟩

end

end TemplateTree
