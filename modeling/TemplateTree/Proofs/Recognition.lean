import TemplateTree.Proofs.TagReading

/-!
# Recognizing the tags that nodes read

No two built-in rules accept one tag, so `Registry.resolve_iff` finds the rule of a tag without their
order. `resolve_of_reading` says that the rules recognize what the nodes read, but for loops whose
variables have other than plain characters in them or start with no word.
-/

namespace TemplateTree

/-! ## One rule for each tag -/

namespace TagRule

variable {rule other : TagRule} {tag : Text}

theorem name_prefix_of_accepts (member : rule ∈ builtIn) (accepts : rule.pattern tag = true) :
    rule.name <+: tag := by
  simp only [builtIn, List.mem_cons, List.not_mem_nil, or_false] at member
  rcases member with rfl | rfl | rfl | rfl | rfl | rfl | rfl
  all_goals
    obtain ⟨rest, rfl, -⟩ := Pattern.word_iff.mp accepts
    exact List.prefix_append _ rest

theorem pairwise_builtIn :
    builtIn.Pairwise fun first second => ¬ first.name <+: second.name ∧ ¬ second.name <+: first.name := by
  unfold builtIn
  decide

theorem pairwise_refuses : builtIn.Pairwise fun first second =>
    ∀ tag, ¬ (first.pattern tag = true ∧ second.pattern tag = true) := by
  refine pairwise_builtIn.imp_of_mem fun here there apart tag => ?_
  rintro ⟨accepts, accepts'⟩
  have named := name_prefix_of_accepts here accepts
  rcases List.prefix_or_prefix_of_prefix named (name_prefix_of_accepts there accepts') with first | second
  · exact apart.1 first
  · exact apart.2 second

end TagRule

namespace Registry

open TagRule

variable {rule : TagRule} {tag : Text}

/-- A tag is resolved to the built-in rule that accepts it, whatever the order of the rules is. -/
theorem resolve_iff : standard.resolve tag = .ok rule ↔ rule ∈ builtIn ∧ rule.pattern tag = true := by
  constructor
  · exact accepts_of_resolve
  · rintro ⟨member, accepts⟩
    obtain ⟨front, back, split⟩ := List.append_of_mem member
    apply resolve_of_split front split _ accepts
    intro other before
    have apart := pairwise_refuses
    rw [split] at apart
    have both := (List.pairwise_append.mp apart).2.2 other before rule List.mem_cons_self tag
    by_contra accepts'
    exact both ⟨by simpa using accepts', accepts⟩

theorem resolve_error_iff : standard.resolve tag = .error (.unknownTag tag) ↔
    ∀ rule ∈ builtIn, rule.pattern tag = false := by
  unfold resolve
  cases found : standard.rules.find? (·.pattern tag) with
  | none => simpa [standard] using found
  | some rule =>
      have accepts := List.find?_some found
      have member : rule ∈ builtIn := List.mem_of_find?_eq_some found
      simp only [reduceCtorEq, false_iff]
      intro refuse
      rw [refuse rule member] at accepts
      cases accepts

end Registry

/-! ## Patterns that accept what was read -/

namespace Pattern

variable {expected tag argument : Text} {next : Pattern}

theorem restOfLine_of_notMem (filled : tag ≠ []) (inLine : '\n' ∉ tag) :
    many isLineChar lineEnd tag = true := by
  obtain ⟨front, back, split, -, members, ends⟩ := some_iff.mp (restOfLine_of_inLine filled inLine)
  exact many_iff.mpr ⟨front, back, split, members, ends⟩

theorem word_blanks_of_argument (found : tag.argument? expected = .some argument)
    (inLine : '\n' ∉ tag) (accepts : ∀ rest : Text, rest ≠ [] → '\n' ∉ rest → next rest = true) :
    word expected (blanks next) tag = true := by
  obtain ⟨c, rest, rfl, blank, filled, -⟩ := Text.argument?_eq_some_iff.mp found
  apply word_append
  apply blanks_iff.mpr
  refine ⟨[c], rest, rfl, List.cons_ne_nil c [], List.forall_mem_singleton.mpr blank, ?_⟩
  apply accepts rest filled
  intro member
  exact inLine (List.mem_append_right _ (List.mem_cons_of_mem c member))

end Pattern

namespace Content

variable {tag : Text} {content : Content}

theorem accepts_of_readBlock (read : readBlock tag = .ok content) :
    Pattern.word Kind.block.name (.blanks (.some Text.isWordChar .lineEnd)) tag = true := by
  unfold readBlock at read
  split at read
  · cases read
  next rest found =>
    dsimp only at read
    split at read
    next both =>
      simp only [Bool.and_eq_true, Bool.or_eq_true, decide_eq_true_eq] at both
      obtain ⟨⟨shorter, filled⟩, ends⟩ := both
      have split := List.takeWhile_append_dropWhile (p := Text.isBlank) (l := rest)
      have body := List.takeWhile_append_dropWhile (p := Text.isWordChar) (l := rest.dropWhile Text.isBlank)
      rw [Text.dropPrefix?_eq_some_iff.mp found]
      apply Pattern.word_append
      apply Pattern.blanks_iff.mpr
      refine ⟨_, _, split.symm, ?_, fun c => List.mem_takeWhile_imp, ?_⟩
      · intro empty
        rw [empty, List.nil_append] at split
        rw [split] at shorter
        exact Nat.lt_irrefl _ shorter
      · exact Pattern.some_iff.mpr ⟨_, _, body.symm, filled, fun c => List.mem_takeWhile_imp,
          Pattern.lineEnd_iff.mpr ends⟩
    · cases read

theorem accepts_of_readCache (inLine : '\n' ∉ tag) (read : readCache tag = .ok content) :
    Pattern.word Kind.cache.name (.blanks (.some Text.isDigit
      (.blanks (.one Pattern.isLineChar .anything)))) tag = true := by
  rcases readCache_cases tag with refused | ⟨digits, rest, gap, c, rfl, filled, blank, some, members,
    blank', filled'⟩
  · rw [refused] at read
    cases read
  · cases rest with
    | nil => exact absurd rfl filled'
    | cons d rest =>
        have line : Pattern.one Pattern.isLineChar .anything (d :: rest) = true := by
          refine Pattern.one_iff.mpr ⟨d, rest, rfl, ?_, rfl⟩
          rw [Pattern.isLineChar, decide_eq_true_eq]
          rintro rfl
          exact inLine (by simp)
        apply Pattern.word_append
        apply Pattern.some_append filled blank
        apply Pattern.some_append some members
        exact Pattern.some_append (List.cons_ne_nil c []) (List.forall_mem_singleton.mpr blank') line

theorem exists_loopParts_of_readLoop (read : readLoop tag = .ok content) :
    ∃ part rest, Text.LoopParts tag part rest := by
  unfold readLoop at read
  split at read
  · cases read
  next written iterable found =>
    dsimp only at read
    split at read
    next both =>
      rw [Bool.and_eq_true, decide_eq_true_eq] at both
      unfold loopParts? at found
      split at found
      · cases found
      next rest here =>
        dsimp only at found
        split at found
        · cases found
        next filled =>
          have split := List.takeWhile_append_dropWhile (p := Text.isBlank) (l := rest)
          rcases Option.or_eq_some_iff.mp found with cut | ⟨-, fallback⟩
          · obtain ⟨part, behind, -, isCut, -⟩ := Text.cutAtIn?_eq_some_iff.mp cut
            refine ⟨part, behind, _, _, ?_, filled, fun c => List.mem_takeWhile_imp,
              Text.head_dropWhile, isCut⟩
            rw [split, Text.dropPrefix?_eq_some_iff.mp here]
          · -- blanks alone are no variables
            split at fallback
            · obtain ⟨argument, -, same⟩ := Option.map_eq_some_iff.mp fallback
              obtain ⟨rfl, -⟩ := Prod.mk.inj same
              exact absurd rfl both.1
            · cases fallback
    · cases read

end Content

theorem Text.LoopParts.accepts_iff {tag part rest : Text} (inLine : '\n' ∉ tag)
    (parts : LoopParts tag part rest) : Pattern.word Kind.loop.name (.blanks (.one isWordChar
      (.many TagRule.isTargetChar (.blanks (.word inWord (.blanks .restOfLine)))))) tag = true ↔
    part.IsTargetList := by
  constructor
  · intro accepts
    obtain ⟨part', rest', parts', targets⟩ := exists_loopParts accepts
    have same := parts.loopParts?_eq.symm.trans parts'.loopParts?_eq
    rwa [(Prod.mk.inj (Option.some.inj same)).1]
  · rintro ⟨first, chars, rfl, word, members⟩
    obtain ⟨gap, body, rfl, filled, blank, -, ⟨behind, rfl, gap', c, rfl, filled', blank', blank'', some⟩,
      -⟩ := parts
    have notMem : '\n' ∉ rest := fun member => inLine (by simp [member])
    have line := Pattern.some_append (List.cons_ne_nil c []) (List.forall_mem_singleton.mpr blank'')
      (Pattern.restOfLine_of_inLine some notMem)
    apply Pattern.word_append
    apply Pattern.some_append filled blank
    apply Pattern.one_iff.mpr
    refine ⟨first, _, List.cons_append .., word, ?_⟩
    apply Pattern.many_append members
    apply Pattern.some_append filled' blank'
    exact Pattern.word_append inWord line

/-! ## Agreement -/

def Kind.Recognizes (kind : Kind) (tag : Text) : Prop :=
  ∃ rule, Registry.standard.resolve tag = .ok rule ∧ rule.kind = kind

/-- The kinds of nodes that read more of a tag than its keyword. -/
def Kind.readers : List Kind := [conditional, loop, inclusion, block, extension, cache]

namespace Registry

open Content Pattern

variable {rule : TagRule} {fragment : Fragment} {tag : Text} {content : Content}

theorem recognizes_of_accepts (member : rule ∈ TagRule.builtIn) (accepts : rule.pattern tag = true) :
    rule.kind.Recognizes tag :=
  ⟨rule, resolve_iff.mpr ⟨member, accepts⟩, rfl⟩

theorem resolve_of_loop (loop : Kind.loop.name <+: tag)
    (refuses : TagRule.builtIn[2].pattern tag = false) : standard.resolve tag = .error (.unknownTag tag) := by
  rw [resolve_error_iff]
  intro rule member
  by_contra accepts
  have named := TagRule.name_prefix_of_accepts member (by simpa using accepts)
  have comparable := List.prefix_or_prefix_of_prefix named loop
  simp only [TagRule.builtIn, List.mem_cons, List.not_mem_nil, or_false] at member
  rcases member with rfl | rfl | rfl | rfl | rfl | rfl | rfl
  case inr.inr.inl => exact accepts refuses
  -- no other name begins a loop
  all_goals exact absurd comparable (by decide)

theorem recognizes_loop (inLine : '\n' ∉ tag) (read : readLoop tag = .ok content) :
    ∃ part rest, tag.LoopParts part rest ∧ (part.IsTargetList → Kind.loop.Recognizes tag) ∧
      (¬ part.IsTargetList → standard.resolve tag = .error (.unknownTag tag)) := by
  obtain ⟨part, rest, parts⟩ := exists_loopParts_of_readLoop read
  refine ⟨part, rest, parts, ?_, ?_⟩
  · intro targets
    have accepts := (parts.accepts_iff inLine).mpr targets
    exact recognizes_of_accepts (List.getElem_mem (n := 2) (by decide)) accepts
  · intro strange
    have refuses := (parts.accepts_iff inLine).not.mpr strange
    obtain ⟨gap, body, rfl, -⟩ := parts
    exact resolve_of_loop (List.prefix_append _ _) (Bool.eq_false_iff.mpr refuses)

theorem recognizes_argument {kind : Kind} {make : Text → Content} {next : Pattern}
    (member : TagRule.ofKind kind (.word kind.name (.blanks next)) ∈ TagRule.builtIn)
    (accepts : ∀ rest : Text, rest ≠ [] → '\n' ∉ rest → next rest = true) (inLine : '\n' ∉ tag)
    (read : readArgument kind.name make tag = .ok content) : kind.Recognizes tag := by
  obtain ⟨argument, found, -⟩ := exists_of_readArgument read
  exact recognizes_of_accepts member (word_blanks_of_argument found inLine accepts)

theorem recognizes_of_read {kind : Kind} (reader : kind ∈ Kind.readers) (noLoop : kind ≠ .loop)
    (inLine : '\n' ∉ fragment.clean) (read : kind.fresh.read fragment = .ok content) :
    kind.Recognizes fragment.clean := by
  simp only [Kind.readers, List.mem_cons, List.not_mem_nil, or_false] at reader
  rcases reader with rfl | rfl | rfl | rfl | rfl | rfl
  · apply recognizes_argument (List.getElem_mem (n := 0) (by decide)) _ inLine read
    exact fun _ => restOfLine_of_notMem
  · exact absurd rfl noLoop
  · apply recognizes_argument (List.getElem_mem (n := 3) (by decide)) _ inLine read
    exact fun _ => restOfLine_of_inLine
  · exact recognizes_of_accepts (List.getElem_mem (n := 4) (by decide)) (accepts_of_readBlock read)
  · apply recognizes_argument (List.getElem_mem (n := 5) (by decide)) _ inLine read
    exact fun _ => restOfLine_of_inLine
  · have accepts := accepts_of_readCache inLine read
    exact recognizes_of_accepts (List.getElem_mem (n := 6) (by decide)) accepts

/-- The built-in rules recognize what the nodes read on one line, but for loops: these they recognize
exactly when the variables are plain. -/
theorem resolve_of_reading {kind : Kind} {node : Node} (reader : kind ∈ Kind.readers)
    (inLine : '\n' ∉ fragment.clean) (made : Node.ofFragment kind fragment = .ok node) :
    (kind ≠ .loop → kind.Recognizes fragment.clean) ∧
    (kind = .loop → ∃ part rest, fragment.clean.LoopParts part rest ∧
      (part.IsTargetList → kind.Recognizes fragment.clean) ∧
      (¬ part.IsTargetList →
        standard.resolve fragment.clean = .error (.unknownTag fragment.clean))) := by
  have read := Node.read_of_ofFragment made
  constructor
  · intro noLoop
    exact recognizes_of_read reader noLoop inLine read
  · rintro rfl
    exact recognizes_loop inLine read

theorem resolve_of_reading_letter : ∃ node,
    Node.ofFragment .loop (.ofBlock "\x7b% for é in x %\x7d".toList "for é in x".toList) = .ok node ∧
      '\n' ∉ "for é in x".toList ∧ Kind.loop.Recognizes "for é in x".toList := by
  have inLine : '\n' ∉ "for é in x".toList := by decide
  obtain ⟨node, made⟩ : ∃ node, Node.ofFragment .loop
      (.ofBlock "\x7b% for é in x %\x7d".toList "for é in x".toList) = .ok node := ⟨_, rfl⟩
  obtain ⟨-, loop⟩ := resolve_of_reading (by decide) inLine made
  obtain ⟨part, rest, parts, plain, -⟩ := loop rfl
  have same : some (part, rest.trim) = some (['é'], ['x']) := parts.loopParts?_eq.symm.trans rfl
  obtain ⟨rfl, -⟩ := Prod.mk.inj (Option.some.inj same)
  exact ⟨node, made, inLine, plain ⟨'é', [], rfl, by decide, by simp⟩⟩

/-- Behind its first letter a loop variable has ASCII letters only, although the node reads others. -/
theorem loop_not_recognized :
    (Fragment.ofBlock "\x7b% for aé in x %\x7d".toList "for aé in x".toList).kind = .openTag ∧
      Text.trim "for aé in x".toList = "for aé in x".toList ∧ '\n' ∉ "for aé in x".toList ∧
      (∃ node, Node.ofFragment .loop
        (.ofBlock "\x7b% for aé in x %\x7d".toList "for aé in x".toList) = .ok node) ∧
      ¬ Kind.loop.Recognizes "for aé in x".toList := by
  refine ⟨rfl, by decide, by decide, ⟨_, rfl⟩, ?_⟩
  rintro ⟨rule, resolved, -⟩
  have unknown : standard.resolve "for aé in x".toList = .error (.unknownTag "for aé in x".toList) := rfl
  rw [unknown] at resolved
  cases resolved

end Registry

end TemplateTree
