import TemplateTree.Proofs.Factorization

/-!
# Comments that stand where others were removed

Removing comments joins the parts of a text between them, and where two parts meet, a new comment may
begin. `stripComments_twice` says that no other comment is left: removing comments once more changes a
text exactly when its parts have such a seam.
-/

namespace TemplateTree

namespace Enclosure

variable {enclosure : Enclosure} {text part before behind after : Text}

def OccursIn (enclosure : Enclosure) (text : Text) : Prop :=
  ∃ body, enclosure.wrap body <:+: text

theorem occursIn_iff : enclosure.OccursIn text ↔
    ∃ front rest, text = front ++ (enclosure.opener.text ++ rest) ∧ enclosure.closer.text <:+: rest := by
  constructor
  · rintro ⟨body, front, back, rfl⟩
    refine ⟨front, body ++ (enclosure.closer.text ++ back), by simp [wrap], body, back, ?_⟩
    rw [List.append_assoc]
  · rintro ⟨front, rest, rfl, body, back, rfl⟩
    exact ⟨body, front, back, by simp [wrap]⟩

theorem OccursIn.of_infix (occurs : enclosure.OccursIn part) (inside : part <:+: text) :
    enclosure.OccursIn text := by
  obtain ⟨body, comment⟩ := occurs
  exact ⟨body, comment.trans inside⟩

/-! ## The first comment -/

theorem cutComment?_eq_none_iff : enclosure.cutComment? text = none ↔ ¬ enclosure.OccursIn text := by
  rw [occursIn_iff]
  unfold cutComment?
  cases opened : text.cut? enclosure.opener.text with
  | none =>
      rw [Text.cut?_eq_none_iff] at opened
      refine iff_of_true rfl ?_
      rintro ⟨front, rest, rfl, -⟩
      exact opened ⟨front, rest, List.append_assoc ..⟩
  | some cut =>
      obtain ⟨front, rest⟩ := cut
      dsimp only
      cases closed : rest.cut? enclosure.closer.text with
      | none =>
          rw [Text.cut?_eq_none_iff] at closed
          refine iff_of_true rfl ?_
          rintro ⟨other, back, joined, closes⟩
          have later := (Text.cut?_eq_some_iff.mp opened).suffix joined
          exact closed (closes.trans later.isInfix)
      | some cut =>
          obtain ⟨body, after⟩ := cut
          refine iff_of_false (by simp) (not_not_intro ⟨front, rest, Text.eq_append_of_cut? opened, ?_⟩)
          exact ⟨body, after, by rw [Text.eq_append_of_cut? closed, List.append_assoc]⟩

theorem cutComment?_eq_some_iff : enclosure.cutComment? text = some (before, after) ↔
    ∃ body, text = before ++ (enclosure.wrap body ++ after) ∧
      Text.OnlyAtEnd enclosure.opener.text before ∧ Text.OnlyAtEnd enclosure.closer.text body := by
  unfold cutComment?
  constructor
  · intro found
    split at found
    · cases found
    next front rest opened =>
      split at found
      · cases found
      next body behind closed =>
        obtain ⟨rfl, rfl⟩ := Prod.mk.inj (Option.some.inj found)
        obtain ⟨rfl, begins⟩ := Text.cut?_eq_some_iff_onlyAtEnd.mp opened
        obtain ⟨rfl, ends⟩ := Text.cut?_eq_some_iff_onlyAtEnd.mp closed
        exact ⟨body, by simp [wrap], begins, ends⟩
  · rintro ⟨body, rfl, begins, ends⟩
    have opened : (before ++ (enclosure.wrap body ++ after)).cut? enclosure.opener.text =
        some (before, body ++ (enclosure.closer.text ++ after)) :=
      Text.cut?_eq_some_iff_onlyAtEnd.mpr ⟨by simp [wrap], begins⟩
    have closed : (body ++ (enclosure.closer.text ++ after)).cut? enclosure.closer.text =
        some (body, after) :=
      Text.cut?_eq_some_iff_onlyAtEnd.mpr ⟨rfl, ends⟩
    simp only [opened, closed]

theorem exists_of_cutComment? (found : enclosure.cutComment? text = some (before, after)) :
    ¬ enclosure.opener.text <:+: before ∧ ∃ body, text = before ++ (enclosure.wrap body ++ after) := by
  obtain ⟨body, joined, begins, -⟩ := cutComment?_eq_some_iff.mp found
  exact ⟨begins.not_infix enclosure.opener.text_ne_nil, body, joined⟩

/-! ## The parts between comments -/

def parts (enclosure : Enclosure) (text : Text) : List Text :=
  match _ : enclosure.cutComment? text with
  | none => [text]
  | some (before, after) => before :: enclosure.parts after
termination_by text.length
decreasing_by exact length_of_cutComment? ‹_›

theorem parts_of_uncut (uncut : enclosure.cutComment? text = none) : enclosure.parts text = [text] := by
  rw [parts]
  split
  · rfl
  next found =>
    rw [uncut] at found
    cases found

theorem parts_of_cut (cut : enclosure.cutComment? text = some (before, after)) :
    enclosure.parts text = before :: enclosure.parts after := by
  rw [parts]
  split
  next found =>
    rw [cut] at found
    cases found
  next found =>
    rw [cut] at found
    obtain ⟨rfl, rfl⟩ := Prod.mk.inj (Option.some.inj found)
    rfl

/-- Where a part meets the text behind it, the end of the one and the start of the other are an
opening delimiter, and a closing one follows. -/
def Meets (enclosure : Enclosure) (part behind : Text) : Prop :=
  ∃ left right rest, left ≠ [] ∧ right ≠ [] ∧ enclosure.opener.text = left ++ right ∧
    left <:+ part ∧ behind = right ++ rest ∧ enclosure.closer.text <:+: rest

def HasSeam (enclosure : Enclosure) (parts : List Text) : Prop :=
  ∃ front part back, parts = front ++ part :: back ∧ enclosure.Meets part back.flatten

theorem hasSeam_cons {parts : List Text} : enclosure.HasSeam (part :: parts) ↔
    enclosure.Meets part parts.flatten ∨ enclosure.HasSeam parts := by
  constructor
  · rintro ⟨front, other, back, split, meets⟩
    cases front with
    | nil =>
        obtain ⟨rfl, rfl⟩ := List.cons.inj split
        exact .inl meets
    | cons first front =>
        obtain ⟨rfl, rfl⟩ := List.cons.inj split
        exact .inr ⟨front, other, back, rfl, meets⟩
  · rintro (meets | ⟨front, other, back, rfl, meets⟩)
    · exact ⟨[], part, parts, rfl, meets⟩
    · exact ⟨part :: front, other, back, rfl, meets⟩

theorem not_hasSeam_singleton : ¬ enclosure.HasSeam [part] := by
  rw [hasSeam_cons]
  rintro (⟨left, right, rest, -, filled, -, -, behind, -⟩ | ⟨front, other, back, split, -⟩)
  · exact filled (List.append_eq_nil_iff.mp behind.symm).1
  · simp at split

theorem Meets.occursIn (meets : enclosure.Meets part behind) : enclosure.OccursIn (part ++ behind) := by
  obtain ⟨left, right, rest, -, -, opener, ⟨front, rfl⟩, rfl, closes⟩ := meets
  exact occursIn_iff.mpr ⟨front, rest, by simp [opener], closes⟩

theorem occursIn_append_iff (missing : ¬ enclosure.opener.text <:+: part) :
    enclosure.OccursIn (part ++ behind) ↔ enclosure.Meets part behind ∨ enclosure.OccursIn behind := by
  constructor
  · intro occurs
    obtain ⟨front, rest, joined, closes⟩ := occursIn_iff.mp occurs
    rcases List.append_eq_append_iff.mp joined with ⟨gap, rfl, later⟩ | ⟨left, rfl, here⟩
    · exact .inr (occursIn_iff.mpr ⟨gap, rest, later, closes⟩)
    · -- the delimiter begins inside the part, so it reaches over the end of it
      rcases List.append_eq_append_iff.mp here with ⟨gap, rfl, -⟩ | ⟨right, opener, rfl⟩
      · exact absurd ⟨front, gap, List.append_assoc ..⟩ missing
      · by_cases nothing : left = []
        · subst nothing
          exact .inr (occursIn_iff.mpr ⟨[], rest, by simp [opener], closes⟩)
        · have filled : right ≠ [] := by
            rintro rfl
            exact missing ⟨front, [], by simp [opener]⟩
          exact .inl ⟨left, right, rest, nothing, filled, opener, List.suffix_append front left, rfl, closes⟩
  · rintro (meets | occurs)
    · exact meets.occursIn
    · exact occurs.of_infix (List.suffix_append part behind).isInfix

theorem occursIn_parts_iff (enclosure : Enclosure) (text : Text) :
    enclosure.OccursIn (enclosure.parts text).flatten ↔ enclosure.HasSeam (enclosure.parts text) := by
  induction text using parts.induct enclosure with
  | case1 text uncut =>
      rw [parts_of_uncut uncut, List.flatten_singleton]
      exact iff_of_false (cutComment?_eq_none_iff.mp uncut) not_hasSeam_singleton
  | case2 text before after found ih =>
      rw [parts_of_cut found, hasSeam_cons, List.flatten_cons, ← ih]
      exact occursIn_append_iff (exists_of_cutComment? found).1

end Enclosure

/-! ## Texts without their comments -/

section

variable {delimiters : Delimiters} {text before after : Text}

theorem flatten_parts (delimiters : Delimiters) (text : Text) :
    (delimiters.comment.parts text).flatten = stripComments delimiters text := by
  rw [stripComments]
  split
  next uncut => rw [Enclosure.parts_of_uncut uncut, List.flatten_singleton]
  next before after found =>
    rw [Enclosure.parts_of_cut found, List.flatten_cons, flatten_parts delimiters after]
termination_by text.length
decreasing_by exact Enclosure.length_of_cutComment? ‹_›

theorem stripComments_of_uncut (uncut : delimiters.comment.cutComment? text = none) :
    stripComments delimiters text = text := by
  rw [← flatten_parts, Enclosure.parts_of_uncut uncut, List.flatten_singleton]

theorem stripComments_of_cut (found : delimiters.comment.cutComment? text = some (before, after)) :
    stripComments delimiters text = before ++ stripComments delimiters after := by
  rw [← flatten_parts, Enclosure.parts_of_cut found, List.flatten_cons, flatten_parts]

theorem stripComments_sublist (delimiters : Delimiters) (text : Text) :
    (stripComments delimiters text).Sublist text := by
  induction text using stripComments.induct delimiters with
  | case1 text uncut => rw [stripComments_of_uncut uncut]
  | case2 text before after found ih =>
      obtain ⟨-, body, joined⟩ := Enclosure.exists_of_cutComment? found
      rw [stripComments_of_cut found, joined]
      exact (List.append_sublist_append_left before).mpr (List.sublist_append_of_sublist_right ih)

theorem stripComments_eq_self_iff :
    stripComments delimiters text = text ↔ ¬ delimiters.comment.OccursIn text := by
  rw [← Enclosure.cutComment?_eq_none_iff]
  constructor
  · intro same
    by_contra commented
    obtain ⟨⟨before, after⟩, found⟩ := Option.ne_none_iff_exists'.mp commented
    obtain ⟨-, body, joined⟩ := Enclosure.exists_of_cutComment? found
    have shorter := (stripComments_sublist delimiters after).length_le
    have filled := List.length_pos_iff.mpr delimiters.comment.opener.text_ne_nil
    rw [stripComments_of_cut found] at same
    have lengths := congrArg List.length (same.trans joined)
    simp only [Enclosure.wrap, List.length_append] at lengths
    omega
  · exact stripComments_of_uncut

theorem stripComments_of_unopened (unopened : ¬ delimiters.comment.opener.text <:+: text) :
    stripComments delimiters text = text := by
  apply stripComments_eq_self_iff.mpr
  rintro ⟨body, comment⟩
  exact unopened ((List.prefix_append _ _).isInfix.trans comment)

theorem flatMap_raw_tokenize (delimiters : Delimiters) (text : Text) :
    (tokenize delimiters text).flatMap Fragment.raw = stripComments delimiters text := by
  conv_rhs => rw [← delimiters.flatMap_raw_slices (stripComments delimiters text)]
  rw [tokenize, List.flatMap_map]
  congr 1
  funext slice
  cases slice with
  | text raw => rfl
  | tag raw => exact classify_raw raw

/-- Removing comments twice does more than removing them once exactly when the parts between the
comments have a seam, and only then is a comment left in the fragments of the text. -/
theorem stripComments_twice (delimiters : Delimiters) (text : Text) :
    (stripComments delimiters (stripComments delimiters text) = stripComments delimiters text ↔
      ¬ delimiters.comment.HasSeam (delimiters.comment.parts text)) ∧
    (delimiters.comment.OccursIn ((tokenize delimiters text).flatMap Fragment.raw) ↔
      delimiters.comment.HasSeam (delimiters.comment.parts text)) ∧
    ∀ fragment ∈ tokenize delimiters text, delimiters.comment.OccursIn fragment.raw →
      delimiters.comment.HasSeam (delimiters.comment.parts text) := by
  have seam := delimiters.comment.occursIn_parts_iff text
  rw [flatten_parts] at seam
  refine ⟨stripComments_eq_self_iff.trans seam.not, by rwa [flatMap_raw_tokenize], ?_⟩
  intro fragment member occurs
  apply seam.mp
  rw [← flatMap_raw_tokenize]
  exact occurs.of_infix (List.infix_of_mem_flatten (List.mem_map_of_mem member))

/-- A brace in front of one comment makes a comment of the text behind it. -/
theorem stripComments_twice_brace :
    stripComments .standard (stripComments .standard "\x7b\x7b# a #\x7d# b #\x7d".toList) ≠
      stripComments .standard "\x7b\x7b# a #\x7d# b #\x7d".toList := by
  have first : Delimiters.standard.comment.cutComment? "\x7b\x7b# a #\x7d# b #\x7d".toList =
      some ("\x7b".toList, "# b #\x7d".toList) := rfl
  have behind : Delimiters.standard.comment.cutComment? "# b #\x7d".toList = none := rfl
  have once : stripComments .standard "\x7b\x7b# a #\x7d# b #\x7d".toList = "\x7b# b #\x7d".toList := by
    rw [stripComments_of_cut first, stripComments_of_uncut behind]
    rfl
  rw [once, ne_eq, stripComments_eq_self_iff, not_not]
  exact ⟨" b ".toList, List.infix_refl _⟩

end

end TemplateTree
