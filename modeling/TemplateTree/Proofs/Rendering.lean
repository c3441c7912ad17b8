import TemplateTree.Proofs.Dispatch
import TemplateTree.Proofs.Markup
import TemplateTree.Tree

/-!
# Rendering trees

A tree is rendered with the standard delimiters, in source order. The main statement is
`Tree.tokenize_render`: the rendering has the fragments of the nodes and closing tags of the tree.
-/

namespace TemplateTree

/-! ## Pairs of characters -/

namespace Text

variable {a b : Char} {text front back : Text}

def Avoids (a b : Char) (text : Text) : Prop := ¬ [a, b] <:+: text

theorem avoids_iff_isChain : Avoids a b text ↔ text.IsChain fun c d => c = a → d ≠ b := by
  rw [List.isChain_iff_forall_rel_of_append_cons_cons]
  constructor
  · rintro avoids c d before after rfl rfl rfl
    exact avoids ⟨before, after, by simp⟩
  · rintro apart ⟨before, after, joined⟩
    have split : text = before ++ a :: b :: after := by rw [← joined]; simp
    exact apart split rfl rfl

theorem Avoids.append (first : Avoids a b front) (second : Avoids a b back)
    (seam : (∀ c ∈ front.getLast?, c ≠ a) ∨ ∀ d ∈ back.head?, d ≠ b) : Avoids a b (front ++ back) := by
  rw [avoids_iff_isChain] at first second ⊢
  refine List.isChain_append.mpr ⟨first, second, ?_⟩
  intro c last d next same
  rcases seam with seam | seam
  · exact absurd same (seam c last)
  · exact seam d next

theorem avoids_of_notMem (missing : a ∉ text) : Avoids a b text := by
  intro inside
  exact missing (inside.subset List.mem_cons_self)

theorem Avoids.append_of_notMem (second : Avoids a b back) (missing : a ∉ front) :
    Avoids a b (front ++ back) := by
  apply (avoids_of_notMem missing).append second
  left
  rintro c last rfl
  exact missing (List.mem_of_mem_getLast? last)

theorem Avoids.pad (avoids : Avoids a b text) (notBlank : a ≠ ' ') (notBlank' : b ≠ ' ') :
    Avoids a b (' ' :: (text ++ [' '])) := by
  have blank : a ∉ [' '] := by simpa using notBlank
  have padded : Avoids a b (text ++ [' ']) := by
    apply avoids.append (avoids_of_notMem blank)
    right
    rintro d ⟨⟩
    exact notBlank'.symm
  exact padded.append_of_notMem blank

end Text

theorem Enclosure.holds_of_avoids {enclosure : Enclosure} {a b : Char} {content : Text}
    (closer : enclosure.closer = .pair a b) (trimmed : content.trim = content)
    (inLine : '\n' ∉ content) (avoids : content.Avoids a b) (notBlank : a ≠ ' ') (notBlank' : b ≠ ' ') :
    enclosure.Holds [' '] content [' '] := by
  have padded := avoids.pad notBlank notBlank'
  refine ⟨trimmed, Text.isBlank_of_mem_space, Text.isBlank_of_mem_space, by simpa using inLine, ?_⟩
  rw [closer, List.singleton_append]
  generalize body : ' ' :: (content ++ [' ']) = padding at padded
  have last : ∀ c ∈ padding.getLast?, c ≠ a := by
    rw [← body, ← List.cons_append, List.getLast?_concat]
    rintro c ⟨⟩
    exact notBlank.symm
  intro n inside closes
  -- an occurrence reaches at most one character over the padding
  have single : Text.Avoids a b [a] := by
    rintro ⟨before, after, joined⟩
    have lengths := congrArg List.length joined
    simp at lengths
    omega
  apply padded.append single (.inl last)
  have shape : padding ++ (Mark.pair a b).text = padding ++ [a] ++ [b] := by simp [Mark.pair]
  rw [shape, List.drop_append_of_le_length (by simp; omega)] at closes
  have short : [a, b] <+: (padding ++ [a]).drop n := by
    apply List.prefix_of_prefix_length_le closes (List.prefix_append _ _)
    simp [Mark.pair]
    omega
  exact short.isInfix.trans (List.drop_suffix n _).isInfix

/-! ## Written contents -/

namespace Content

variable {content : Content}

theorem Writable.kind_cases (writable : content.Writable) : content.kind.createsScope = true ∨
    content.kind.isLeaf = true ∨ content.kind = .alternative := by
  cases content with
  | plain => cases writable
  | leaf => cases writable
  | root sourceId => cases writable
  | alternative => exact .inr (.inr rfl)
  | text | expression | inclusion | extension => exact .inr (.inl rfl)
  | conditional | loop | block | cache => exact .inl rfl

theorem inline_nil : Text.Inline [] := by
  refine ⟨rfl, by simp, ?_, ?_, ?_⟩ <;>
    intro inside <;> exact absurd (List.eq_nil_of_infix_nil inside) (by simp)

def isLeadChar (c : Char) : Bool := Text.isWordChar c || c = ' ' || c = ','

theorem isLeadChar_of_isWordChar {c : Char} (word : Text.isWordChar c = true) :
    isLeadChar c = true := by
  rw [isLeadChar, word]
  rfl

theorem isLeadChar_keyword (kind : Kind) : ∀ c ∈ kind.name ++ [' '], isLeadChar c = true := by
  rw [← List.all_eq_true]
  cases kind <;> rfl

theorem isLeadChar_joined {targets : List Text} (all : ∀ target ∈ targets, target.IsTarget) :
    ∀ c ∈ Text.joined [',', ' '] targets, isLeadChar c = true := by
  have chars {target : Text} (isTarget : target.IsTarget) : ∀ c ∈ target, isLeadChar c = true :=
    fun c member => isLeadChar_of_isWordChar (isTarget.isWordChar member)
  have marks : ∀ c ∈ [',', ' '], isLeadChar c = true := List.all_eq_true.mp rfl
  cases targets with
  | nil => exact List.forall_mem_nil _
  | cons first rest =>
      obtain ⟨here, behind⟩ := List.forall_mem_cons.mp all
      rw [Text.joined_cons]
      refine List.forall_mem_append.mpr ⟨chars here, ?_⟩
      intro c member
      obtain ⟨target, inRest, inPart⟩ := List.mem_flatMap.mp member
      rcases List.mem_append.mp inPart with mark | inTarget
      · exact marks c mark
      · exact chars (behind target inRest) c inTarget

theorem written_split (writable : content.Writable) (ruled : content.isRuled = true) :
    ∃ lead argument, content.written = lead ++ argument ∧ argument.Inline ∧
      ∀ c ∈ lead, isLeadChar c = true := by
  cases content with
  | plain => cases writable
  | leaf => cases writable
  | root sourceId => cases writable
  | text value => cases ruled
  | expression value => cases ruled
  | alternative => exact ⟨Kind.alternative.name, [], rfl, inline_nil, List.all_eq_true.mp rfl⟩
  | conditional condition =>
      exact ⟨Kind.conditional.name ++ [' '], condition, by simp [written], writable.1,
        isLeadChar_keyword .conditional⟩
  | inclusion target =>
      exact ⟨Kind.inclusion.name ++ [' '], target, by simp [written], writable.1,
        isLeadChar_keyword .inclusion⟩
  | extension target =>
      exact ⟨Kind.extension.name ++ [' '], target, by simp [written], writable.1,
        isLeadChar_keyword .extension⟩
  | block name =>
      obtain ⟨-, members⟩ := Text.isWord_iff.mp writable
      refine ⟨Kind.block.name ++ [' '] ++ name, [], by simp [written], inline_nil, ?_⟩
      refine List.forall_mem_append.mpr ⟨isLeadChar_keyword .block, ?_⟩
      exact fun c member => isLeadChar_of_isWordChar (members c member)
  | cache seconds key =>
      have digits : ∀ c ∈ Text.ofNat seconds, isLeadChar c = true := by
        intro c member
        apply isLeadChar_of_isWordChar
        apply Text.isWordChar_of_isAlphanum
        rw [Char.isAlphanum, Text.isDigit_of_mem_ofNat member, Bool.or_true]
      have blank : ∀ c ∈ [' '], isLeadChar c = true := List.all_eq_true.mp rfl
      refine ⟨Kind.cache.name ++ [' '] ++ (Text.ofNat seconds ++ [' ']), key, by simp [written],
        writable.2.1, ?_⟩
      exact List.forall_mem_append.mpr
        ⟨isLeadChar_keyword .cache, List.forall_mem_append.mpr ⟨digits, blank⟩⟩
  | loop targets iterable =>
      have between : ∀ c ∈ ' ' :: (Text.inWord ++ [' ']), isLeadChar c = true :=
        List.all_eq_true.mp rfl
      refine ⟨Kind.loop.name ++ [' '] ++ (Text.joined [',', ' '] targets ++
        ' ' :: (Text.inWord ++ [' '])), iterable, by simp [written], writable.2.2.1, ?_⟩
      exact List.forall_mem_append.mpr ⟨isLeadChar_keyword .loop,
        List.forall_mem_append.mpr ⟨isLeadChar_joined writable.2.1, between⟩⟩

theorem trimmed_behind (kind : Kind) (between : Text) {argument : Text} (inline : argument.Inline)
    (filled : argument ≠ []) : Text.Trimmed (kind.name ++ (between ++ argument)) := by
  have keyword : kind.name.trim = kind.name := by cases kind <;> decide
  have some : kind.name ≠ [] := by cases kind <;> decide
  exact (Text.trim_eq_self_iff.mp keyword).append (Text.trim_eq_self_iff.mp inline.trimmed) some filled
    between

theorem trimmed_written (writable : content.Writable) (ruled : content.isRuled = true) :
    content.written.trim = content.written := by
  rw [Text.trim_eq_self_iff]
  cases content with
  | plain => cases writable
  | leaf => cases writable
  | root sourceId => cases writable
  | text value => cases ruled
  | expression value => cases ruled
  | alternative => exact Text.trim_eq_self_iff.mp (by decide)
  | conditional condition => exact trimmed_behind .conditional [' '] writable.1 writable.2
  | inclusion target => exact trimmed_behind .inclusion [' '] writable.1 writable.2
  | extension target => exact trimmed_behind .extension [' '] writable.1 writable.2
  | cache seconds key =>
      have trimmed := trimmed_behind .cache (' ' :: (Text.ofNat seconds ++ [' '])) writable.2.1
        writable.2.2
      simpa [written] using trimmed
  | loop targets iterable =>
      have trimmed := trimmed_behind .loop
        (' ' :: (Text.joined [',', ' '] targets ++ ' ' :: (Text.inWord ++ [' ']))) writable.2.2.1
        writable.2.2.2
      simpa [written] using trimmed
  | block name =>
      obtain ⟨filled, members⟩ := Text.isWord_iff.mp writable
      have keyword : Kind.block.name.Trimmed := Text.trim_eq_self_iff.mp (by decide)
      exact keyword.append (Text.trimmed_of_word members) (by decide) filled [' ']

theorem avoids_written {a b : Char} (writable : content.Writable) (ruled : content.isRuled = true)
    (special : isLeadChar a = false) (inline : ∀ argument : Text, argument.Inline → argument.Avoids a b) :
    content.written.Avoids a b := by
  obtain ⟨lead, argument, split, isInline, members⟩ := written_split writable ruled
  rw [split]
  apply (inline argument isInline).append_of_notMem
  intro member
  rw [members a member] at special
  cases special

theorem inLine_written (writable : content.Writable) (ruled : content.isRuled = true) :
    '\n' ∉ content.written := by
  obtain ⟨lead, argument, split, isInline, members⟩ := written_split writable ruled
  have special : isLeadChar '\n' = false := by decide
  rw [split, List.mem_append, not_or]
  refine ⟨?_, isInline.inLine⟩
  intro member
  rw [members '\n' member] at special
  cases special

end Content

/-! ## Markup of nodes -/

structure Text.IsClosing (text : Text) : Prop where
  trimmed : text.trim = text
  inLine : '\n' ∉ text
  noComment : ¬ ['{', '#'] <:+: text
  noBlockEnd : ¬ ['%', '}'] <:+: text
  keyword : ∃ behind, text.words.head? = some (Fragment.endWord ++ behind) ∧
    ∀ c ∈ behind, Text.isWordChar c = true

namespace Content

def markup (content : Content) : Markup :=
  match content with
  | text value => .text value
  | expression value => .expression [' '] value [' ']
  | content => .block [' '] content.written [' ']

variable {content : Content}

theorem markup_of_ruled (ruled : content.isRuled = true) :
    content.markup = .block [' '] content.written [' '] := by
  cases content with
  | text value => cases ruled
  | expression value => cases ruled
  | _ => rfl

end Content

/-- A part of a rendering: it is read as it is written, and no comment starts in it or with it. -/
structure Markup.Clean (markup : Markup) : Prop where
  wellFormed : markup.WellFormed .standard
  noComment : (markup.raw .standard).Avoids '{' '#'
  ending : ∀ c ∈ (markup.raw .standard).getLast?, c ≠ '{'

theorem Enclosure.noComment_wrap {enclosure : Enclosure} {content : Text}
    (opener : enclosure.opener.text.Avoids '{' '#') (closer : '{' ∉ enclosure.closer.text)
    (noComment : content.Avoids '{' '#') :
    (enclosure.wrap ([' '] ++ (content ++ [' ']))).Avoids '{' '#' ∧
      ∀ c ∈ (enclosure.wrap ([' '] ++ (content ++ [' ']))).getLast?, c ≠ '{' := by
  have padded : Text.Avoids '{' '#' (' ' :: (content ++ [' '])) :=
    noComment.pad (by decide) (by decide)
  have closed : Text.Avoids '{' '#' (' ' :: (content ++ [' ']) ++ enclosure.closer.text) := by
    apply padded.append (Text.avoids_of_notMem closer)
    left
    rw [← List.cons_append, List.getLast?_concat]
    rintro c ⟨⟩
    decide
  constructor
  · apply opener.append closed
    right
    rintro d ⟨⟩
    decide
  · rw [wrap, ← List.append_assoc, List.getLast?_append_of_ne_nil _ enclosure.closer.text_ne_nil]
    rintro c last rfl
    exact closer (List.mem_of_mem_getLast? last)

theorem Markup.clean_block {content : Text} (trimmed : content.trim = content) (inLine : '\n' ∉ content)
    (noComment : content.Avoids '{' '#') (noBlockEnd : content.Avoids '%' '}') :
    (Markup.block [' '] content [' ']).Clean := by
  have holds : Delimiters.standard.blockTag.Holds [' '] content [' '] :=
    Enclosure.holds_of_avoids rfl trimmed inLine noBlockEnd (by decide) (by decide)
  have opener : Delimiters.standard.blockTag.opener.text.Avoids '{' '#' := by
    unfold Text.Avoids
    decide
  have closer : '{' ∉ Delimiters.standard.blockTag.closer.text := by decide
  obtain ⟨uncommented, ending⟩ := Enclosure.noComment_wrap opener closer noComment
  exact ⟨holds, uncommented, ending⟩

theorem Markup.clean_expression {content : Text} (inline : content.Inline) :
    (Markup.expression [' '] content [' ']).Clean := by
  have holds : Delimiters.standard.variableTag.Holds [' '] content [' '] :=
    Enclosure.holds_of_avoids rfl inline.trimmed inline.inLine inline.noVariableEnd (by decide)
      (by decide)
  have opener : Delimiters.standard.variableTag.opener.text.Avoids '{' '#' := by
    unfold Text.Avoids
    decide
  have closer : '{' ∉ Delimiters.standard.variableTag.closer.text := by decide
  obtain ⟨uncommented, ending⟩ := Enclosure.noComment_wrap opener closer inline.noComment
  exact ⟨holds, uncommented, ending⟩

theorem Markup.clean_text {value : Text} (filled : value ≠ []) (plain : '{' ∉ value) :
    (Markup.text value).Clean := by
  have other {c : Char} (member : c ∈ value) : c ≠ '{' := by
    rintro rfl
    exact plain member
  refine ⟨⟨filled, ?_⟩, Text.avoids_of_notMem plain, ?_⟩
  · intro c member
    constructor
    · rintro ⟨⟩
      exact plain member
    · rintro ⟨⟩
      exact plain member
  · intro c last
    exact other (List.mem_of_mem_getLast? last)

theorem Content.clean_markup {content : Content} (writable : content.Writable) : content.markup.Clean := by
  cases ruled : content.isRuled with
  | true =>
      rw [markup_of_ruled ruled]
      apply Markup.clean_block (trimmed_written writable ruled) (inLine_written writable ruled)
      · exact avoids_written writable ruled (by decide) fun _ inline => inline.noComment
      · exact avoids_written writable ruled (by decide) fun _ inline => inline.noBlockEnd
  | false =>
      cases content with
      | text value => exact Markup.clean_text writable.1 writable.2
      | expression value => exact Markup.clean_expression writable
      | _ => cases ruled

theorem Text.IsClosing.clean_block {closing : Text} (isClosing : closing.IsClosing) :
    (Markup.block [' '] closing [' ']).Clean :=
  Markup.clean_block isClosing.trimmed isClosing.inLine isClosing.noComment isClosing.noBlockEnd

/-! ## Trees -/

def Node.closer (node : Node) : List Markup :=
  if node.createsScope then [.block [' '] (node.closing.getD []) [' ']] else []

namespace Tree

mutual

def markups : Tree → List Markup
  | mk node children => node.content.markup :: (markupsAll children ++ node.closer)

def markupsAll : List Tree → List Markup
  | [] => []
  | tree :: trees => markups tree ++ markupsAll trees

end

def render (trees : List Tree) : Text := (markupsAll trees).flatMap (Markup.raw .standard)

/-- Trees that can stand below a node of the kind: texts are apart from each other, and an alternative
is the last child of a conditional. -/
structure Siblings (kind : Kind) (trees : List Tree) : Prop where
  texts : trees.IsChain fun first second => first.node.kind ≠ .text ∨ second.node.kind ≠ .text
  inner : ∀ tree ∈ trees.dropLast, tree.node.kind ≠ .alternative
  last : ∀ tree ∈ trees.getLast?, tree.node.kind = .alternative → kind = .conditional

inductive Writable : Tree → Prop
  | mk {node : Node} {children : List Tree} (content : node.content.Writable)
      (closing : node.createsScope = true → ∃ closing, node.closing = some closing ∧ closing.IsClosing)
      (leaf : node.isLeaf = true → children = []) (siblings : Siblings node.kind children)
      (below : ∀ child ∈ children, child.Writable) : Writable (.mk node children)

theorem markupsAll_eq (trees : List Tree) : markupsAll trees = trees.flatMap markups := by
  induction trees with
  | nil => rfl
  | cons tree trees ih => rw [markupsAll, ih, List.flatMap_cons]

theorem clean_markups {tree : Tree} (writable : tree.Writable) : ∀ markup ∈ tree.markups, markup.Clean := by
  induction writable with
  | @mk node children content closing leaf siblings below ih =>
      rw [markups, List.forall_mem_cons, List.forall_mem_append]
      refine ⟨Content.clean_markup content, ?_, ?_⟩
      · intro markup member
        rw [markupsAll_eq] at member
        obtain ⟨child, among, inside⟩ := List.mem_flatMap.mp member
        exact ih child among markup inside
      · intro markup member
        unfold Node.closer at member
        cases opens : node.createsScope with
        | false =>
            rw [opens, if_neg Bool.false_ne_true] at member
            cases member
        | true =>
            obtain ⟨text, closes, isClosing⟩ := closing opens
            rw [opens, if_pos rfl, closes] at member
            obtain rfl := List.mem_singleton.mp member
            exact isClosing.clean_block

theorem isText_markup (content : Content) : content.markup.isText = decide (content.kind = .text) := by
  cases content <;> rfl

theorem kind_of_isText_last {tree : Tree} (writable : tree.Writable) {markup : Markup}
    (last : markup ∈ tree.markups.getLast?) (isText : markup.isText = true) :
    tree.node.kind = .text ∨ tree.node.kind = .alternative := by
  cases writable with
  | @mk node children content closing leaf siblings below =>
      rw [markups] at last
      cases opens : node.createsScope with
      | true =>
          have closer : node.closer = [.block [' '] (node.closing.getD []) [' ']] := if_pos opens
          rw [closer, ← List.cons_append, List.getLast?_concat] at last
          obtain rfl := Option.some.inj last
          cases isText
      | false =>
          have closer : node.closer = [] := by
            rw [Node.closer, opens, if_neg Bool.false_ne_true]
          rcases content.kind_cases with creates | isLeaf | alternative
          · rw [Node.createsScope, Node.kind, creates] at opens
            cases opens
          · obtain rfl := leaf isLeaf
            rw [closer, markupsAll, List.nil_append, List.getLast?_singleton] at last
            obtain rfl := Option.some.inj last
            rw [isText_markup, decide_eq_true_eq] at isText
            exact .inl isText
          · exact .inr alternative

theorem head_markups (tree : Tree) (rest : List Markup) :
    (tree.markups ++ rest).head? = some tree.node.content.markup := by
  cases tree
  rfl

theorem isChain_markupsAll {kind : Kind} {trees : List Tree} (siblings : Siblings kind trees)
    (writable : ∀ tree ∈ trees, tree.Writable)
    (each : ∀ tree ∈ trees, tree.markups.IsChain fun first second =>
      first.isText = false ∨ second.isText = false) :
    (markupsAll trees).IsChain fun first second => first.isText = false ∨ second.isText = false := by
  induction trees with
  | nil => exact .nil
  | cons tree trees ih =>
      obtain ⟨texts, inner, last⟩ := siblings
      rw [List.forall_mem_cons] at writable each
      rw [markupsAll, List.isChain_append]
      cases trees with
      | nil => exact ⟨each.1, .nil, by simp [markupsAll]⟩
      | cons next trees =>
          rw [List.isChain_cons_cons] at texts
          rw [List.dropLast_cons_cons, List.forall_mem_cons] at inner
          rw [List.getLast?_cons_cons] at last
          refine ⟨each.1, ih ⟨texts.2, inner.2, last⟩ writable.2 each.2, ?_⟩
          intro ending atEnd start atStart
          rw [markupsAll, head_markups] at atStart
          obtain rfl := Option.some.inj atStart
          by_contra both
          rw [not_or, Bool.not_eq_false, Bool.not_eq_false] at both
          have nextText : next.node.kind = .text := by
            have isText := both.2
            rwa [isText_markup, decide_eq_true_eq] at isText
          rcases kind_of_isText_last writable.1 atEnd both.1 with text | alternative
          · exact texts.1.elim (absurd text) (absurd nextText)
          · exact inner.1 alternative

theorem isChain_markups {tree : Tree} (writable : tree.Writable) :
    tree.markups.IsChain fun first second => first.isText = false ∨ second.isText = false := by
  induction writable with
  | @mk node children content closing leaf siblings below ih =>
      have inside := isChain_markupsAll siblings below ih
      rw [markups]
      cases isText : node.content.markup.isText with
      | true =>
          rw [isText_markup, decide_eq_true_eq] at isText
          have isLeaf : node.isLeaf = true := by rw [Node.isLeaf, Node.kind, isText]; rfl
          have stays : node.closer = [] := by
            rw [Node.closer, Node.createsScope, Node.kind, isText]
            rfl
          rw [leaf isLeaf, stays]
          exact List.isChain_singleton _
      | false =>
          refine List.isChain_cons.mpr ⟨fun next _ => .inl isText, ?_⟩
          refine List.isChain_append.mpr ⟨inside, ?_, ?_⟩
          · unfold Node.closer
            split
            · exact List.isChain_singleton _
            · exact .nil
          · intro last _ closer member
            unfold Node.closer at member
            split at member
            · obtain rfl := Option.some.inj member
              exact .inr rfl
            · cases member

theorem avoids_render {markups : List Markup} (clean : ∀ markup ∈ markups, markup.Clean) :
    Text.Avoids '{' '#' (markups.flatMap (Markup.raw .standard)) := by
  induction markups with
  | nil => exact Text.avoids_of_notMem List.not_mem_nil
  | cons markup markups ih =>
      obtain ⟨here, behind⟩ := List.forall_mem_cons.mp clean
      rw [List.flatMap_cons]
      exact here.noComment.append (ih behind) (.inl here.ending)

theorem apart_standard : Delimiters.standard.Apart := by
  unfold Delimiters.Apart
  decide

theorem tokenize_clean {markups : List Markup} (clean : ∀ markup ∈ markups, markup.Clean)
    (separated : markups.IsChain fun first second => first.isText = false ∨ second.isText = false) :
    tokenize .standard (markups.flatMap (Markup.raw .standard)) = markups.map (Markup.fragment .standard) :=
  tokenize_flatMap_raw apart_standard (fun markup member => (clean markup member).wellFormed) separated
    (avoids_render clean)

/-- The fragments of rendered trees are those of their nodes and closing tags, in source order. -/
theorem tokenize_render {kind : Kind} {trees : List Tree} (siblings : Siblings kind trees)
    (writable : ∀ tree ∈ trees, tree.Writable) :
    tokenize .standard (render trees) = (markupsAll trees).map (Markup.fragment .standard) := by
  have clean : ∀ markup ∈ markupsAll trees, markup.Clean := by
    intro markup member
    rw [markupsAll_eq] at member
    obtain ⟨tree, among, inside⟩ := List.mem_flatMap.mp member
    exact clean_markups (writable tree among) markup inside
  apply tokenize_clean clean
  exact isChain_markupsAll siblings writable fun tree among => isChain_markups (writable tree among)

end Tree

end TemplateTree
