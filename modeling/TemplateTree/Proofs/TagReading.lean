import TemplateTree.Fragment.Slice
import TemplateTree.Proofs.Rendering
import TemplateTree.Proofs.TagParts

/-!
# Reading the tags that rules accept

A rule looks at a tag before the node of its kind reads it. `tokenize_reading` says that they agree:
a node reads the tags that its rule accepts, but for loops with a blank inside a variable and caches
with too many digits.
-/

namespace TemplateTree

namespace Content

variable {tag : Text} {error : TreeError} {content : Content}

/-! ## Errors -/

theorem readArgument_error {keyword : Text} {make : Text → Content}
    (failed : readArgument keyword make tag = .error error) : error = .unknownTag tag := by
  unfold readArgument at failed
  split at failed
  · cases failed
  · exact (Except.error.inj failed).symm

theorem readLoop_error (failed : readLoop tag = .error error) :
    error = .unknownTag tag ∨ error = .invalidTargets tag := by
  unfold readLoop at failed
  split at failed
  · exact .inl (Except.error.inj failed).symm
  · dsimp only at failed
    split at failed
    · cases failed
    · exact .inr (Except.error.inj failed).symm

theorem readBlock_error (failed : readBlock tag = .error error) : error = .unknownTag tag := by
  unfold readBlock at failed
  split at failed
  · exact (Except.error.inj failed).symm
  · dsimp only at failed
    split at failed
    · cases failed
    · exact (Except.error.inj failed).symm

theorem readCache_cases (tag : Text) : readCache tag = .error (.unknownTag tag) ∨
    ∃ digits rest, Text.CacheParts tag digits rest := by
  unfold readCache
  split
  · exact .inl rfl
  next behind here =>
    dsimp only
    split
    next both =>
      rw [Bool.and_eq_true, decide_eq_true_eq, decide_eq_true_eq] at both
      split
      · exact .inl rfl
      next key found =>
        obtain ⟨c, rest, joined, blank, filled, -⟩ := Text.argument?_eq_some_iff.mp found
        have split := List.takeWhile_append_dropWhile (p := Text.isBlank) (l := behind)
        refine .inr ⟨(behind.dropWhile Text.isBlank).takeWhile Text.isDigit, rest, ?_⟩
        refine ⟨behind.takeWhile Text.isBlank, c, ?_, ?_, fun b => List.mem_takeWhile_imp, both.2,
          fun d => List.mem_takeWhile_imp, blank, filled⟩
        · rw [← joined, split, Text.dropPrefix?_eq_some_iff.mp here]
        · intro empty
          rw [empty, List.nil_append] at split
          rw [split] at both
          exact Nat.lt_irrefl _ both.1
    · exact .inl rfl

theorem readCache_error (failed : readCache tag = .error error) : error = .unknownTag tag ∨
    ∃ digits rest, Text.CacheParts tag digits rest ∧ TreeError.digitLimit < digits.length ∧
      error = .numberTooLong digits.length := by
  rcases readCache_cases tag with refused | ⟨digits, rest, parts⟩
  · rw [refused] at failed
    exact .inl (Except.error.inj failed).symm
  · rw [parts.readCache_eq] at failed
    split at failed
    · cases failed
    next long =>
      exact .inr ⟨digits, rest, parts, Nat.lt_of_not_le long, (Except.error.inj failed).symm⟩

theorem read_error {fragment : Fragment} (failed : content.read fragment = .error error) :
    error = .unknownTag fragment.clean ∨ error = .invalidTargets fragment.clean ∨
      content.kind = .cache ∧ ∃ digits rest, Text.CacheParts fragment.clean digits rest ∧
        TreeError.digitLimit < digits.length ∧ error = .numberTooLong digits.length := by
  cases content with
  | conditional _ => exact .inl (readArgument_error failed)
  | inclusion _ => exact .inl (readArgument_error failed)
  | extension _ => exact .inl (readArgument_error failed)
  | loop _ _ => exact (readLoop_error failed).imp_right .inl
  | block _ => exact .inl (readBlock_error failed)
  | cache _ _ => exact (readCache_error failed).imp_right fun parts => .inr ⟨rfl, parts⟩
  | _ => cases failed

/-! ## Kinds -/

theorem exists_of_readArgument {keyword : Text} {make : Text → Content}
    (read : readArgument keyword make tag = .ok content) :
    ∃ argument, tag.argument? keyword = some argument ∧ content = make argument := by
  unfold readArgument at read
  split at read
  next argument found => exact ⟨argument, found, (Except.ok.inj read).symm⟩
  · cases read

theorem kind_readLoop (read : readLoop tag = .ok content) : content.kind = .loop := by
  unfold readLoop at read
  split at read
  · cases read
  · dsimp only at read
    split at read
    · obtain rfl := Except.ok.inj read
      rfl
    · cases read

theorem kind_readBlock (read : readBlock tag = .ok content) : content.kind = .block := by
  unfold readBlock at read
  split at read
  · cases read
  · dsimp only at read
    split at read
    · obtain rfl := Except.ok.inj read
      rfl
    · cases read

theorem kind_readCache (read : readCache tag = .ok content) : content.kind = .cache := by
  rcases readCache_cases tag with refused | ⟨digits, rest, parts⟩
  · rw [refused] at read
    cases read
  · rw [parts.readCache_eq] at read
    split at read
    · obtain rfl := Except.ok.inj read
      rfl
    · cases read

theorem kind_read {read : Content} {fragment : Fragment} (reads : content.read fragment = .ok read) :
    read.kind = content.kind := by
  cases content with
  | conditional _ =>
      obtain ⟨argument, -, rfl⟩ := exists_of_readArgument reads
      rfl
  | inclusion _ =>
      obtain ⟨argument, -, rfl⟩ := exists_of_readArgument reads
      rfl
  | extension _ =>
      obtain ⟨argument, -, rfl⟩ := exists_of_readArgument reads
      rfl
  | loop _ _ => exact kind_readLoop reads
  | block _ => exact kind_readBlock reads
  | cache _ _ => exact kind_readCache reads
  | plain | leaf | root | text | expression | alternative =>
      obtain rfl := Except.ok.inj reads
      rfl

theorem read_congr {first second : Fragment} (other : content.kind ≠ .text)
    (same : first.clean = second.clean) : content.read first = content.read second := by
  cases content with
  | text _ => exact absurd rfl other
  | _ => simp only [read, same]

/-! ## Accepted tags -/

def Proper (content : Content) : Prop :=
  ∀ named ∈ content.attributes, match named.2 with
    | .text value => value.Proper
    | .texts values => values ≠ [] ∧ ∀ value ∈ values, value.Proper
    | .number _ => True

end Content

theorem Pattern.exists_argument {expected : Text} {next : Pattern} {tag : Text} (trimmed : tag.Trimmed)
    (accepts : word expected (blanks next) tag = true) :
    ∃ argument, tag.argument? expected = Option.some argument ∧ Text.Proper argument := by
  obtain ⟨rest, rfl, accepts₁⟩ := word_iff.mp accepts
  obtain ⟨gap, rest, rfl, filled, blank, -⟩ := blanks_iff.mp accepts₁
  cases gap with
  | nil => exact absurd rfl filled
  | cons c gap =>
      have here := blank c List.mem_cons_self
      obtain ⟨some, proper⟩ := trimmed.behind here
      exact ⟨_, Text.argument?_eq_some_iff.mpr ⟨c, _, rfl, here, some, rfl⟩, proper⟩

namespace Text

variable {tag part rest digits : Text}

theorem LoopParts.proper (trimmed : tag.Trimmed) (parts : LoopParts tag part rest) : rest.trim.Proper := by
  obtain ⟨gap, body, rfl, -, -, -, ⟨behind, rfl, gap', c, rfl, -, -, blank, -⟩, -⟩ := parts
  have shape : Kind.loop.name ++ (gap ++ (part ++ (gap' ++ (inWord ++ c :: rest)))) =
      (Kind.loop.name ++ gap ++ part ++ gap' ++ inWord) ++ c :: rest := by simp
  rw [shape] at trimmed
  exact (trimmed.behind blank).2

theorem CacheParts.proper (trimmed : tag.Trimmed) (parts : CacheParts tag digits rest) :
    rest.trim.Proper := by
  obtain ⟨gap, c, rfl, -, -, -, -, blank, -⟩ := parts
  have shape : Kind.cache.name ++ (gap ++ (digits ++ c :: rest)) =
      (Kind.cache.name ++ gap ++ digits) ++ c :: rest := by simp
  rw [shape] at trimmed
  exact (trimmed.behind blank).2

theorem exists_loopParts (accepts : Pattern.word Kind.loop.name (.blanks (.one isWordChar
      (.many TagRule.isTargetChar (.blanks (.word inWord (.blanks .restOfLine)))))) tag = true) :
    ∃ part rest, LoopParts tag part rest ∧ IsTargetList part := by
  obtain ⟨_, rfl, accepts₁⟩ := Pattern.word_iff.mp accepts
  obtain ⟨gap, _, rfl, some, blank, accepts₂⟩ := Pattern.blanks_iff.mp accepts₁
  obtain ⟨c, _, rfl, word, accepts₃⟩ := Pattern.one_iff.mp accepts₂
  obtain ⟨chars, _, rfl, targets, accepts₄⟩ := Pattern.many_iff.mp accepts₃
  obtain ⟨gap', _, rfl, some', blank', accepts₅⟩ := Pattern.blanks_iff.mp accepts₄
  obtain ⟨_, rfl, accepts₆⟩ := Pattern.word_iff.mp accepts₅
  obtain ⟨gap'', line, rfl, some'', blank'', accepts₇⟩ := Pattern.blanks_iff.mp accepts₆
  cases gap'' with
  | nil => exact absurd rfl some''
  | cons d gap'' =>
      have filled : gap'' ++ line ≠ [] :=
        List.append_ne_nil_of_right_ne_nil gap'' (Pattern.restOfLine_ne_nil accepts₇)
      have starts : StartsIn (gap' ++ (inWord ++ d :: (gap'' ++ line))) (gap'' ++ line) :=
        ⟨gap', d, rfl, some', blank', blank'' d List.mem_cons_self, filled⟩
      obtain ⟨part, rest, cut, shorter⟩ := exists_isInCut (c :: chars) starts
      have solid : ∀ b ∈ (c :: (chars ++ (gap' ++ (inWord ++ d :: (gap'' ++ line))))).head?,
          isBlank b = false := by
        rintro b ⟨⟩
        exact isBlank_of_isWordChar word
      refine ⟨part, rest, ⟨gap, _, rfl, some, blank, solid, cut⟩, ?_⟩
      cases part with
      | nil =>
          -- the blanks before an `in` cannot stand at the start of the variables
          obtain ⟨behind, joined, starts⟩ := cut.joined
          obtain ⟨b, behind, rfl, blank⟩ := starts.head
          rw [solid b (by rw [← List.cons_append, joined]; rfl)] at blank
          cases blank
      | cons first part =>
          obtain ⟨rfl, inside⟩ := List.cons_prefix_cons.mp shorter
          exact ⟨first, part, rfl, word, fun e member => targets e (inside.subset member)⟩

theorem exists_cacheParts (accepts : Pattern.word Kind.cache.name (.blanks (.some isDigit
      (.blanks (.one Pattern.isLineChar .anything)))) tag = true) :
    ∃ digits rest, CacheParts tag digits rest := by
  obtain ⟨_, rfl, accepts₁⟩ := Pattern.word_iff.mp accepts
  obtain ⟨gap, _, rfl, filled, blank, accepts₂⟩ := Pattern.blanks_iff.mp accepts₁
  obtain ⟨digits, _, rfl, some, members, accepts₃⟩ := Pattern.some_iff.mp accepts₂
  obtain ⟨gap', _, rfl, filled', blank', accepts₄⟩ := Pattern.blanks_iff.mp accepts₃
  obtain ⟨d, rest, rfl, -⟩ := Pattern.one_iff.mp accepts₄
  cases gap' with
  | nil => exact absurd rfl filled'
  | cons c gap' =>
      exact ⟨digits, gap' ++ d :: rest, gap, c, rfl, filled, blank, some, members,
        blank' c List.mem_cons_self, List.append_ne_nil_of_right_ne_nil gap' (List.cons_ne_nil d rest)⟩

theorem exists_blockName (trimmed : tag.Trimmed)
    (accepts : Pattern.word Kind.block.name (.blanks (.some isWordChar .lineEnd)) tag = true) :
    ∃ name, Content.readBlock tag = .ok (.block name) ∧ name.isWord = true := by
  obtain ⟨_, rfl, accepts₁⟩ := Pattern.word_iff.mp accepts
  obtain ⟨gap, _, rfl, filled, blank, accepts₂⟩ := Pattern.blanks_iff.mp accepts₁
  obtain ⟨name, behind, rfl, some, members, ends⟩ := Pattern.some_iff.mp accepts₂
  have ends : behind = [] := by
    rcases Pattern.lineEnd_iff.mp ends with empty | rfl
    · exact empty
    · have shape : Kind.block.name ++ (gap ++ (name ++ ['\n'])) =
          (Kind.block.name ++ gap ++ name) ++ '\n' :: [] := by simp
      rw [shape] at trimmed
      exact absurd rfl (trimmed.behind (by decide)).1
  rw [ends, List.append_nil]
  have solid : ∀ c ∈ name.head?, isBlank c = false :=
    fun c first => isBlank_of_isWordChar (members c (List.mem_of_mem_head? first))
  have body := (span_append blank solid).2
  have whole : name.takeWhile isWordChar = name := List.takeWhile_eq_self_iff.mpr members
  have nothing : name.dropWhile isWordChar = [] := List.dropWhile_eq_nil_iff.mpr members
  have shorter : 0 < gap.length := List.length_pos_iff.mpr filled
  refine ⟨name, ?_, isWord_iff.mpr ⟨some, members⟩⟩
  rw [Content.readBlock, dropPrefix?_append]
  simp only [body, whole, nothing]
  simp [shorter, some]

end Text

/-! ## Agreement -/

namespace Content

variable {fragment : Fragment} {tag argument part rest digits : Text}

theorem proper_of_argument (proper : argument.Proper) : (conditional argument).Proper ∧
    (inclusion argument).Proper ∧ (extension argument).Proper ∧ (block argument).Proper := by
  refine ⟨?_, ?_, ?_, ?_⟩ <;> exact List.forall_mem_singleton.mpr proper

theorem readLoop_eq (parts : Text.LoopParts tag part rest) (targets : part.IsTargetList) :
    readLoop tag = if part.listed.all Text.isWord then .ok (.loop part.listed rest.trim)
      else .error (.invalidTargets tag) := by
  rw [readLoop, parts.loopParts?_eq]
  simp [targets.listed_ne_nil]

theorem proper_loop (trimmed : tag.Trimmed) (parts : Text.LoopParts tag part rest)
    (targets : part.IsTargetList) : (loop part.listed rest.trim).Proper := by
  refine List.forall_mem_cons.mpr ⟨⟨targets.listed_ne_nil, ?_⟩, ?_⟩
  · intro target member
    obtain ⟨filled, item, -, rfl⟩ := Text.mem_listed.mp member
    exact ⟨filled, (Text.trimmed_trim item).trim_eq⟩
  · exact List.forall_mem_singleton.mpr (parts.proper trimmed)

theorem proper_cache (trimmed : tag.Trimmed) (parts : Text.CacheParts tag digits rest) :
    (cache (Text.digitsValue digits) rest.trim).Proper :=
  List.forall_mem_cons.mpr ⟨trivial, List.forall_mem_singleton.mpr (parts.proper trimmed)⟩

theorem spacedTarget_iff (parts : Text.LoopParts tag part rest) (targets : part.IsTargetList) :
    tag.SpacedTarget ↔ ¬ part.listed.all Text.isWord = true := by
  rw [targets.all_isWord_iff]
  constructor
  · rintro ⟨part', rest', parts', item, isItem, c, member, blank⟩ solid
    have same := parts.loopParts?_eq.symm.trans parts'.loopParts?_eq
    obtain ⟨rfl, -⟩ := Prod.mk.inj (Option.some.inj same)
    rw [solid item isItem c member] at blank
    cases blank
  · intro spaced
    push Not at spaced
    obtain ⟨item, isItem, c, member, blank⟩ := spaced
    exact ⟨part, rest, parts, item, isItem, c, member, by simpa using blank⟩

theorem read_resolved {rule : TagRule} (trimmed : fragment.clean.Trimmed)
    (resolved : Registry.standard.resolve fragment.clean = .ok rule) :
    (rule.kind ≠ .loop ∧ rule.kind ≠ .cache ∧
      ∃ content, rule.kind.fresh.read fragment = .ok content ∧ content.Proper) ∨
    (rule.kind = .loop ∧ ∃ part rest, Text.LoopParts fragment.clean part rest ∧ part.IsTargetList) ∨
    (rule.kind = .cache ∧ ∃ digits rest, Text.CacheParts fragment.clean digits rest) := by
  obtain ⟨builtIn, accepts⟩ : rule ∈ TagRule.builtIn ∧ rule.pattern fragment.clean = true :=
    Registry.accepts_of_resolve resolved
  have argued {kind : Kind} {next : Pattern} {make : Text → Content}
      (accepts : Pattern.word kind.name (.blanks next) fragment.clean = true)
      (proper : ∀ argument : Text, argument.Proper → (make argument).Proper) :
      ∃ content, readArgument kind.name make fragment.clean = .ok content ∧ content.Proper := by
    obtain ⟨argument, found, isProper⟩ := Pattern.exists_argument trimmed accepts
    exact ⟨make argument, by rw [readArgument, found], proper argument isProper⟩
  simp only [TagRule.builtIn, List.mem_cons, List.not_mem_nil, or_false] at builtIn
  rcases builtIn with rfl | rfl | rfl | rfl | rfl | rfl | rfl
  · exact .inl ⟨by decide, by decide, argued accepts fun _ proper => (proper_of_argument proper).1⟩
  · exact .inl ⟨by decide, by decide, .alternative, rfl, List.forall_mem_nil _⟩
  · exact .inr (.inl ⟨rfl, Text.exists_loopParts accepts⟩)
  · exact .inl ⟨by decide, by decide, argued accepts fun _ proper => (proper_of_argument proper).2.1⟩
  · obtain ⟨name, read, word⟩ := Text.exists_blockName trimmed accepts
    exact .inl ⟨by decide, by decide, _, read, (proper_of_argument (Text.proper_of_isWord word)).2.2.2⟩
  · exact .inl ⟨by decide, by decide, argued accepts fun _ proper => (proper_of_argument proper).2.2.1⟩
  · exact .inr (.inr ⟨rfl, Text.exists_cacheParts accepts⟩)

end Content

namespace Node

variable {kind : Kind} {fragment : Fragment}

theorem ofFragment_error_iff {error : TreeError} :
    ofFragment kind fragment = .error error ↔ kind.fresh.read fragment = .error error := by
  unfold ofFragment read fresh
  cases kind.fresh.read fragment <;> simp [Except.map]

theorem read_of_ofFragment {node : Node} (made : ofFragment kind fragment = .ok node) :
    kind.fresh.read fragment = .ok node.content := by
  unfold ofFragment read fresh at made
  cases found : kind.fresh.read fragment with
  | error error =>
      rw [found] at made
      cases made
  | ok content =>
      rw [found] at made
      obtain rfl := Except.ok.inj made
      rfl

theorem kind_ofFragment {node : Node} (made : ofFragment kind fragment = .ok node) :
    node.kind = kind := by
  have same := Content.kind_read (read_of_ofFragment made)
  rwa [Kind.kind_fresh] at same

theorem ofFragment_congr {other : Fragment} (notText : kind ≠ .text)
    (same : fragment.clean = other.clean) : ofFragment kind fragment = ofFragment kind other := by
  have content : kind.fresh.kind ≠ .text := by rwa [Kind.kind_fresh]
  simp only [ofFragment, read, fresh, mark, Content.read_congr content same, same]

end Node

theorem Fragment.exists_ofBlock {delimiters : Delimiters} {text : Text} {fragment : Fragment}
    (member : fragment ∈ tokenize delimiters text)
    (block : fragment.kind = .openTag ∨ fragment.kind = .closeTag) :
    ∃ raw body, fragment = .ofBlock raw (Text.trim body) := by
  obtain ⟨slice, -, rfl⟩ := List.mem_map.mp member
  cases slice with
  | text raw => rcases block with block | block <;> cases block
  | tag raw =>
      unfold Slice.toFragment classify at block ⊢
      dsimp only at block ⊢
      cases variableTag : delimiters.variableTag.unwrap? raw with
      | some body =>
          rw [variableTag] at block
          rcases block with block | block <;> cases block
      | none =>
          rw [variableTag] at block
          cases blockTag : delimiters.blockTag.unwrap? raw with
          | some body => exact ⟨raw, body, rfl⟩
          | none =>
              rw [blockTag] at block
              rcases block with block | block <;> cases block

/-- How a node of the kind reads a tag: which errors it answers with, and what it keeps. -/
structure Kind.Reads (kind : Kind) (fragment : Fragment) : Prop where
  refuses : ∀ error, Node.ofFragment kind fragment = .error error ↔
    (kind = .loop ∧ fragment.clean.SpacedTarget ∧ error = .invalidTargets fragment.clean) ∨
    (kind = .cache ∧ ∃ digits rest, fragment.clean.CacheParts digits rest ∧ 4300 < digits.length ∧
      error = .numberTooLong digits.length)
  keeps : ∀ node, Node.ofFragment kind fragment = .ok node → node.content.Proper
  targets : kind = .loop → ∃! part, ∃ rest, fragment.clean.LoopParts part rest
  digits : kind = .cache → ∃! digits, ∃ rest, fragment.clean.CacheParts digits rest

namespace Kind

variable {kind : Kind} {fragment : Fragment} {content : Content} {part rest digits : Text}

theorem reads_of_read (noLoop : kind ≠ .loop) (noCache : kind ≠ .cache)
    (read : kind.fresh.read fragment = .ok content) (proper : content.Proper) : kind.Reads fragment where
  refuses := by
    intro error
    rw [Node.ofFragment_error_iff, read]
    simp [noLoop, noCache]
  keeps := by
    intro node made
    have same := (Node.read_of_ofFragment made).symm.trans read
    rwa [Except.ok.inj same]
  targets := fun loop => absurd loop noLoop
  digits := fun cache => absurd cache noCache

theorem reads_loop (trimmed : fragment.clean.Trimmed) (parts : fragment.clean.LoopParts part rest)
    (targets : part.IsTargetList) : loop.Reads fragment where
  refuses := by
    intro error
    have read : loop.fresh.read fragment = _ := Content.readLoop_eq parts targets
    rw [Node.ofFragment_error_iff, read, Content.spacedTarget_iff parts targets]
    split
    next words => simp [words]
    next spaced => simp [spaced, eq_comm]
  keeps := by
    intro node made
    have same := (Node.read_of_ofFragment made).symm.trans (Content.readLoop_eq parts targets)
    split at same
    · rw [Except.ok.inj same]
      exact Content.proper_loop trimmed parts targets
    · cases same
  targets := by
    refine fun _ => ⟨part, ⟨rest, parts⟩, ?_⟩
    rintro other ⟨rest', parts'⟩
    have same := parts'.loopParts?_eq.symm.trans parts.loopParts?_eq
    exact (Prod.mk.inj (Option.some.inj same)).1
  digits := fun cache => by cases cache

theorem reads_cache (trimmed : fragment.clean.Trimmed) (parts : fragment.clean.CacheParts digits rest) :
    cache.Reads fragment where
  refuses := by
    intro error
    have read : cache.fresh.read fragment = _ := parts.readCache_eq
    rw [Node.ofFragment_error_iff, read]
    constructor
    · intro failed
      split at failed
      · cases failed
      next long =>
        exact .inr ⟨rfl, digits, rest, parts, Nat.lt_of_not_le long, (Except.error.inj failed).symm⟩
    · rintro (⟨loop, -⟩ | ⟨-, digits', rest', parts', long, rfl⟩)
      · cases loop
      · obtain rfl := parts.unique parts'
        exact if_neg (Nat.not_le_of_lt long)
  keeps := by
    intro node made
    have same := (Node.read_of_ofFragment made).symm.trans parts.readCache_eq
    split at same
    · rw [Except.ok.inj same]
      exact Content.proper_cache trimmed parts
    · cases same
  targets := fun loop => by cases loop
  digits := fun _ => ⟨digits, ⟨rest, parts⟩, fun _ ⟨_, parts'⟩ => (parts.unique parts').symm⟩

end Kind

/-- Of the opening tags in a document, those that a built-in rule accepts are read by the node of the
rule, but for loops with a blank inside a variable and for caches with too many digits. What the
nodes keep is never empty and never padded. -/
theorem tokenize_reading {delimiters : Delimiters} {text : Text} {fragment : Fragment} {rule : TagRule}
    (member : fragment ∈ tokenize delimiters text) (opens : fragment.kind = .openTag)
    (resolved : Registry.standard.resolve fragment.clean = .ok rule) : rule.kind.Reads fragment := by
  have trimmed : fragment.clean.Trimmed := by
    obtain ⟨raw, body, rfl⟩ := Fragment.exists_ofBlock member (.inl opens)
    exact Text.trimmed_trim body
  rcases Content.read_resolved trimmed resolved with ⟨noLoop, noCache, content, read, proper⟩ |
    ⟨loop, part, rest, parts, targets⟩ | ⟨cache, digits, rest, parts⟩
  · exact Kind.reads_of_read noLoop noCache read proper
  · rw [loop]
    exact Kind.reads_loop trimmed parts targets
  · rw [cache]
    exact Kind.reads_cache trimmed parts

theorem tokenize_reading_spaced : ∃ fragment rule,
    fragment ∈ tokenize .standard "\x7b% for a b, c in x %\x7d".toList ∧ fragment.kind = .openTag ∧
      Registry.standard.resolve fragment.clean = .ok rule ∧ rule.kind.Reads fragment ∧
      fragment.clean.SpacedTarget := by
  have noComment : Text.Avoids '{' '#' "for a b, c in x".toList := Text.avoids_of_notMem (by decide)
  have noEnd : Text.Avoids '%' '}' "for a b, c in x".toList := Text.avoids_of_notMem (by decide)
  have clean : (Markup.block [' '] "for a b, c in x".toList [' ']).Clean :=
    Markup.clean_block (by decide) (by decide) noComment noEnd
  have fragments := Tree.tokenize_clean (List.forall_mem_singleton.mpr clean) (.singleton _)
  have member : Markup.fragment .standard (.block [' '] "for a b, c in x".toList [' ']) ∈
      tokenize .standard "\x7b% for a b, c in x %\x7d".toList :=
    fragments ▸ List.mem_singleton_self _
  have resolved : Registry.standard.resolve "for a b, c in x".toList = .ok TagRule.builtIn[2] := rfl
  have reads := tokenize_reading member rfl resolved
  have refused := (reads.refuses (.invalidTargets "for a b, c in x".toList)).mp rfl
  refine ⟨_, _, member, rfl, resolved, reads, ?_⟩
  rcases refused with ⟨-, spaced, -⟩ | ⟨cache, -⟩
  · exact spaced
  · cases cache

end TemplateTree
