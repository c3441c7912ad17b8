import TemplateTree.Proofs.Lines

/-!
# What a matched slice is taken for

The kind of a tag is found again from the delimiters at its ends, although the scanner knew it. The main
statement is `classify_slice`: the two agree when no line feed stands in the delimiters of blocks, even if
delimiters begin or end with each other.
-/

namespace TemplateTree

variable {delimiters : Delimiters} {enclosure : Enclosure} {text raw after : Text}

theorem Enclosure.exists_tagAt?_wrap (enclosure : Enclosure) {body : Text} (inLine : '\n' ∉ body)
    (rest : Text) : ∃ found, enclosure.tagAt? (enclosure.wrap body ++ rest) = some found := by
  have passed : ∀ c ∈ body, (c != '\n') = true := by
    intro c member
    rw [bne_iff_ne]
    rintro rfl
    exact inLine member
  obtain ⟨before, after, cut⟩ := Text.exists_isFirstCut_append enclosure.closer.text rest passed
  exact ⟨_, tagAt?_eq_some_iff.mpr ⟨before, rfl, _, by simp [wrap], cut⟩⟩

theorem Fragment.classify_of_variable {body : Text} (wrapped : raw = delimiters.variableTag.wrap body) :
    classify delimiters raw = ⟨raw, .variableTag, body.trim⟩ := by
  rw [classify, Enclosure.unwrap?_eq_some_iff.mpr wrapped]

theorem Fragment.classify_of_block {body : Text} (wrapped : raw = delimiters.blockTag.wrap body)
    (other : delimiters.variableTag.unwrap? raw = none) :
    classify delimiters raw = ofBlock raw body.trim := by
  rw [classify, other, Enclosure.unwrap?_eq_some_iff.mpr wrapped]

theorem Fragment.kind_ofBlock (raw clean : Text) :
    (ofBlock raw clean).kind = .openTag ∨ (ofBlock raw clean).kind = .closeTag := by
  unfold ofBlock
  split
  · exact .inr rfl
  · exact .inl rfl

theorem Delimiters.unwrap?_of_block (inLine : delimiters.blockTag.InLine)
    (missing : delimiters.variableTag.tagAt? text = none)
    (found : delimiters.blockTag.tagAt? text = some (raw, after)) :
    delimiters.variableTag.unwrap? raw = none := by
  cases here : delimiters.variableTag.unwrap? raw with
  | none => rfl
  | some body =>
      -- with both its delimiters on the line of the block tag, a variable tag would have started here
      have wrapped := Enclosure.unwrap?_eq_some_iff.mp here
      have inBody : '\n' ∉ body := by
        intro member
        apply Enclosure.notMem_of_tagAt? inLine found
        simp [wrapped, Enclosure.wrap, member]
      obtain ⟨tag, starts⟩ := delimiters.variableTag.exists_tagAt?_wrap inBody after
      rw [← wrapped, ← (Enclosure.eq_append_of_tagAt? found).1, missing] at starts
      cases starts

/-- The fragment is a tag of the enclosure that starts at a place of the text, and its content is what
stands between the delimiters. -/
structure Enclosure.Matches (enclosure : Enclosure) (whole : Text) (start : Nat) (fragment : Fragment) :
    Prop where
  spans : enclosure.Spans whole start (start + fragment.raw.length)
  content : ∃ body, fragment.raw = enclosure.wrap body ∧ fragment.clean = body.trim

theorem Enclosure.matches_of_tagAt? (front : Text) {rest : Text} {fragment : Fragment}
    (found : enclosure.tagAt? (fragment.raw ++ rest) = some (fragment.raw, rest))
    (content : ∃ body, fragment.raw = enclosure.wrap body ∧ fragment.clean = body.trim) :
    enclosure.Matches (front ++ (fragment.raw ++ rest)) front.length fragment := by
  refine ⟨?_, content⟩
  rw [← Nat.add_zero front.length, Nat.add_right_comm, Nat.add_assoc, spans_append, Nat.add_zero]
  exact spans_length_iff.mpr found

/-- A matched slice is a variable tag exactly when one starts at its place, and otherwise a block tag. In
both cases its content stands between the delimiters with which it was matched. -/
theorem classify_slice (inLine : delimiters.blockTag.InLine) {front back : List Slice}
    (split : delimiters.slices (stripComments delimiters text) = front ++ .tag raw :: back) :
    let fragment := Fragment.classify delimiters raw
    let start := (front.flatMap Slice.raw).length
    (tokenize delimiters text)[front.length]? = some fragment ∧ fragment.raw = raw ∧
      (fragment.kind = .variableTag ↔
        ∃ stop, delimiters.variableTag.Spans (stripComments delimiters text) start stop) ∧
      (fragment.kind = .variableTag ∧
          delimiters.variableTag.Matches (stripComments delimiters text) start fragment ∨
        (fragment.kind = .openTag ∨ fragment.kind = .closeTag) ∧
          delimiters.blockTag.Matches (stripComments delimiters text) start fragment) := by
  dsimp only
  have factors : Factorization delimiters _ (delimiters.slices (stripComments delimiters text)) :=
    factorization_slices _
  have joined := factors.joined_of_split split
  have found := factors.tagAt?_of_split split
  have same : (Fragment.classify delimiters raw).raw = raw := classify_raw raw
  have here : (tokenize delimiters text)[front.length]? = some (Fragment.classify delimiters raw) := by
    rw [tokenize, split, List.map_append, List.getElem?_append_right (by simp)]
    simp [Slice.toFragment]
  refine ⟨here, same, ?_⟩
  rw [joined, Slice.raw]
  rcases Option.or_eq_some_iff.mp found with first | ⟨missing, second⟩
  · obtain ⟨body, wrapped, -⟩ := Enclosure.tagAt?_eq_some_iff.mp first
    rw [Fragment.classify_of_variable wrapped]
    have matched : delimiters.variableTag.Matches _ _ ⟨raw, .variableTag, body.trim⟩ :=
      Enclosure.matches_of_tagAt? (front.flatMap Slice.raw) first ⟨body, wrapped, rfl⟩
    exact ⟨iff_of_true rfl ⟨_, matched.spans⟩, .inl ⟨rfl, matched⟩⟩
  · obtain ⟨body, wrapped, -⟩ := Enclosure.tagAt?_eq_some_iff.mp second
    rw [Fragment.classify_of_block wrapped (Delimiters.unwrap?_of_block inLine missing second)]
    have matched : delimiters.blockTag.Matches _ _ (.ofBlock raw body.trim) :=
      Enclosure.matches_of_tagAt? (front.flatMap Slice.raw) second ⟨body, wrapped, rfl⟩
    have kind := Fragment.kind_ofBlock raw body.trim
    have alone : ¬ ∃ stop, delimiters.variableTag.Spans (raw ++ back.flatMap Slice.raw) 0 stop := by
      rintro ⟨stop, spans⟩
      obtain ⟨_, _, starts, -⟩ := Enclosure.spans_zero_iff.mp spans
      rw [missing] at starts
      cases starts
    rw [← Enclosure.exists_spans_append (front.flatMap Slice.raw), Nat.add_zero] at alone
    refine ⟨iff_of_false ?_ alone, .inr ⟨kind, matched⟩⟩
    rcases kind with kind | kind <;> simp [kind]

theorem classify_slice_nested :
    let delimiters : Delimiters :=
      ⟨.mk (.pair '{' '#') (.pair '#' '}'), ⟨⟨['<'], by decide⟩, ⟨['>'], by decide⟩⟩,
        ⟨.pair '<' '%', .pair '%' '>'⟩⟩
    let raw := "<% a %>".toList
    delimiters.blockTag.InLine ∧
      delimiters.slices (stripComments delimiters raw) = [] ++ .tag raw :: [] ∧
      (tokenize delimiters raw)[0]? = some (Fragment.classify delimiters raw) ∧
      (Fragment.classify delimiters raw).kind = .variableTag := by
  intro delimiters raw
  have inLine : delimiters.blockTag.InLine := by
    unfold Enclosure.InLine
    decide
  have found : delimiters.tagAt? raw = some (raw, []) := rfl
  have uncut : Text.cut? raw delimiters.comment.opener.text = none := rfl
  have split : delimiters.slices (stripComments delimiters raw) = [] ++ .tag raw :: [] := by
    rw [stripComments_of_unopened (Text.cut?_eq_none_iff.mp uncut), Delimiters.slices_of_tagAt? found,
      Delimiters.slices_nil]
    rfl
  exact ⟨inLine, split, (classify_slice inLine split).1, rfl⟩

end TemplateTree
