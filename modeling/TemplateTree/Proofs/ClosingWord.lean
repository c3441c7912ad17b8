import TemplateTree.Proofs.Blank
import TemplateTree.Proofs.Classification
import TemplateTree.Proofs.Strictness

/-!
# Closing tags and the scopes that they name

The characters of a block tag tell whether it closes a scope, and its words tell which scopes it names. The
main statement is `classify_closing`: the two never disagree, whatever the delimiters are.
-/

namespace TemplateTree

theorem Kind.isWordChar_of_mem_name (kind : Kind) : ∀ c ∈ kind.name, Text.isWordChar c = true := by
  rw [← List.all_eq_true]
  cases kind <;> decide +kernel

namespace Node

variable {node : Node} {closing keyword name : Text} {behind : List Text}

/-! ## The words of closing tags -/

theorem acceptsClose_of_words (words : closing.words = keyword :: behind) : node.acceptsClose closing =
    .ok (node.closingKeywords.contains keyword && node.acceptsWords behind) := by
  have filled : closing ≠ [] := by
    rintro rfl
    cases words
  rw [acceptsClose, closingKeyword, if_neg filled, words]
  rfl

theorem acceptsClose_iff : node.acceptsClose closing = .ok true ↔ ∃ keyword ∈ node.closingKeywords,
    ∃ behind, closing.words = keyword :: behind ∧ node.acceptsWords behind = true := by
  cases words : closing.words with
  | nil =>
      refine iff_of_false (fun accepted => ?_) (by simp)
      unfold acceptsClose closingKeyword at accepted
      rw [words] at accepted
      split at accepted <;> cases accepted
  | cons keyword behind => simp [acceptsClose_of_words words]

theorem exists_of_mem_closingKeywords (member : keyword ∈ node.closingKeywords) :
    ∃ ending, keyword = Fragment.endWord ++ ending ∧ ∀ c ∈ ending, Text.isWordChar c = true := by
  rw [closingKeywords, List.mem_pair] at member
  rcases member with rfl | rfl
  · exact ⟨[], rfl, List.forall_mem_nil _⟩
  · exact ⟨node.name, rfl, node.kind.isWordChar_of_mem_name⟩

def blockClosings (name : Text) : List (List Text) :=
  [["end".toList], ["endblock".toList], ["end".toList, name], ["endblock".toList, name]]

theorem acceptsClose_block_iff (block : node.content = .block name) :
    node.acceptsClose closing = .ok true ↔ closing.words ∈ blockClosings name := by
  have keywords : node.closingKeywords = ["end".toList, "endblock".toList] := by
    rw [closingKeywords, Node.name, kind, block]
    rfl
  have fits (behind : List Text) : node.acceptsWords behind = true ↔ behind = [] ∨ behind = [name] := by
    simp [acceptsWords, block]
  rw [acceptsClose_iff, keywords]
  simp only [fits, blockClosings, List.mem_cons, List.not_mem_nil, or_false, exists_eq_or_imp, exists_eq_left,
    and_or_left, exists_or, exists_eq_right]
  tauto

end Node

/-! ## The kind of a tag -/

theorem Text.Trimmed.words_ne_nil {text : Text} (trimmed : text.Trimmed) (filled : text ≠ []) :
    text.words ≠ [] := by
  intro none
  have first := head_words trimmed filled
  rw [none] at first
  cases first

namespace Fragment

variable {delimiters : Delimiters} {raw clean : Text} {node : Node}

theorem exists_classify_eq_ofBlock (block : (classify delimiters raw).kind = .openTag ∨
    (classify delimiters raw).kind = .closeTag) :
    ∃ clean : Text, clean.Trimmed ∧ classify delimiters raw = ofBlock raw clean := by
  unfold classify at block ⊢
  split at block
  · rcases block with block | block <;> cases block
  · split at block
    next body _ => exact ⟨body.trim, Text.trimmed_trim body, rfl⟩
    · rcases block with block | block <;> cases block

theorem kind_classify_iff :
    (classify delimiters raw).kind = .openTag ∨ (classify delimiters raw).kind = .closeTag ↔
      (∃ body, raw = delimiters.blockTag.wrap body) ∧ ∀ body, raw ≠ delimiters.variableTag.wrap body := by
  unfold classify
  split
  next body variableTag =>
    have wrapped := Enclosure.unwrap?_eq_some_iff.mp variableTag
    exact iff_of_false nofun fun block => block.2 body wrapped
  next noVariable =>
    have unwrapped : ∀ body, raw ≠ delimiters.variableTag.wrap body := by
      intro body wrapped
      rw [Enclosure.unwrap?_eq_some_iff.mpr wrapped] at noVariable
      cases noVariable
    split
    next body block =>
      have wrapped := Enclosure.unwrap?_eq_some_iff.mp block
      refine iff_of_true ?_ ⟨⟨body, wrapped⟩, unwrapped⟩
      unfold ofBlock
      split
      · exact .inr rfl
      · exact .inl rfl
    next noBlock =>
      refine iff_of_false nofun ?_
      rintro ⟨⟨body, wrapped⟩, -⟩
      rw [Enclosure.unwrap?_eq_some_iff.mpr wrapped] at noBlock
      cases noBlock

theorem kind_ofBlock_eq_closeTag_iff : (ofBlock raw clean).kind = .closeTag ↔ isClosingTag clean = true := by
  unfold ofBlock
  split <;> simp_all

theorem isClosingTag_of_acceptsClose (trimmed : clean.Trimmed)
    (accepted : node.acceptsClose clean = .ok true) : isClosingTag clean = true := by
  obtain ⟨keyword, member, behind, words, -⟩ := Node.acceptsClose_iff.mp accepted
  obtain ⟨ending, rfl, word⟩ := Node.exists_of_mem_closingKeywords member
  exact isClosingTag_of_words trimmed (by rw [words, List.head?_cons]) word

theorem kind_ofBlock_of_acceptsClose (trimmed : clean.Trimmed)
    (accepted : node.acceptsClose clean = .ok true) : (ofBlock raw clean).kind = .closeTag :=
  kind_ofBlock_eq_closeTag_iff.mpr (isClosingTag_of_acceptsClose trimmed accepted)

theorem acceptsClose_of_openTag (trimmed : clean.Trimmed) (opening : (ofBlock raw clean).kind = .openTag) :
    node.acceptsClose clean = .ok false := by
  obtain ⟨accepted, answer⟩ := node.acceptsClose_ok trimmed.words_ne_nil
  cases accepted with
  | false => exact answer
  | true =>
      rw [kind_ofBlock_of_acceptsClose trimmed answer] at opening
      cases opening

/-- Whatever stands between the delimiters of blocks, and not between those of variables, is an opening or a
closing tag. The first word of a closing tag is `end` with word characters behind it, so that every node can
be asked whether the tag names it. An opening tag names no node, and a block is named by four texts only. -/
theorem classify_closing (delimiters : Delimiters) (raw : Text) :
    let fragment := classify delimiters raw
    (fragment.kind = .openTag ∨ fragment.kind = .closeTag ↔
      (∃ body, raw = delimiters.blockTag.wrap body) ∧ ∀ body, raw ≠ delimiters.variableTag.wrap body) ∧
    (fragment.kind = .closeTag →
      (∃ ending, fragment.clean.words.head? = some (endWord ++ ending) ∧
        ∀ c ∈ ending, Text.isWordChar c = true) ∧
      ∀ node : Node, ∃ accepted, node.acceptsClose fragment.clean = .ok accepted) ∧
    (fragment.kind = .openTag → ∀ node : Node, node.acceptsClose fragment.clean = .ok false) ∧
    (fragment.kind = .openTag ∨ fragment.kind = .closeTag →
      (∀ node : Node, node.acceptsClose fragment.clean = .ok true → fragment.kind = .closeTag) ∧
      ∀ (node : Node) (name : Text), node.content = .block name →
        (node.acceptsClose fragment.clean = .ok true ↔ fragment.clean.words ∈ Node.blockClosings name)) := by
  refine ⟨kind_classify_iff, ?_⟩
  by_cases block : (classify delimiters raw).kind = .openTag ∨ (classify delimiters raw).kind = .closeTag
  · obtain ⟨clean, trimmed, same⟩ := exists_classify_eq_ofBlock block
    rw [same]
    refine ⟨fun closing => ⟨?_, fun node => ?_⟩, fun opening node => ?_, fun _ => ⟨fun node => ?_, ?_⟩⟩
    · exact (isClosingTag_iff trimmed).mp (kind_ofBlock_eq_closeTag_iff.mp closing)
    · exact node.acceptsClose_ok trimmed.words_ne_nil
    · exact acceptsClose_of_openTag trimmed opening
    · exact kind_ofBlock_of_acceptsClose trimmed
    · exact fun node name isBlock => Node.acceptsClose_block_iff isBlock
  · obtain ⟨noOpening, noClosing⟩ := not_or.mp block
    exact ⟨fun closing => absurd closing noClosing, fun opening => absurd opening noOpening,
      fun other => absurd other block⟩

example : classify .standard "\x7b% endif %\x7d".toList =
    ⟨"\x7b% endif %\x7d".toList, .closeTag, "endif".toList⟩ := by decide +kernel

end Fragment

end TemplateTree
