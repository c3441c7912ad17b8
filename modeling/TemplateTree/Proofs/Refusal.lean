import TemplateTree.Compile
import TemplateTree.Proofs.Emission
import TemplateTree.Proofs.TagReading

/-!
# Why a document is refused

Documents are refused for what a tag says or for how their tags nest. `Compiler.compile_outcome` adds
the one other reason: a number in a cache tag with more digits than can be converted.
-/

namespace TemplateTree

namespace TreeError

def IsSyntax : TreeError → Prop
  | unknownTag _ | invalidTargets _ | duplicateAlternative _ _ => True
  | _ => False

def IsNesting : TreeError → Prop
  | strayClose | unclosed _ | mismatchedClose _ _ | childOfLeaf _ => True
  | _ => False

end TreeError

namespace Builder

variable {builder : Builder} {fragment : Fragment} {fragments : List Fragment} {scopes : List Scope}
  {sourceId : Text} {error : TreeError} {n : Nat}

/-- A fragment is a cache tag whose number has `n` digits, too many to be read. -/
def Overlong (builder : Builder) (fragment : Fragment) (n : Nat) : Prop :=
  fragment.kind = .openTag ∧ ∃ rule digits rest, builder.registry.resolve fragment.clean = .ok rule ∧
    rule.kind = .cache ∧ fragment.clean.CacheParts digits rest ∧ digits.length = n ∧ 4300 < n

theorem makeNode_error (failed : builder.makeNode fragment = .error error) :
    error = .unknownTag fragment.clean ∨ error = .invalidTargets fragment.clean ∨
      ∃ n, builder.Overlong fragment n ∧ error = .numberTooLong n := by
  unfold makeNode at failed
  split at failed
  · cases Node.ofFragment_error_iff.mp failed
  · cases Node.ofFragment_error_iff.mp failed
  next opens =>
    rcases bind_eq_error.mp failed with unresolved | ⟨rule, resolved, failed⟩
    · unfold Registry.resolve at unresolved
      split at unresolved
      · cases unresolved
      · exact .inl (Except.error.inj unresolved).symm
    · rcases Content.read_error (Node.ofFragment_error_iff.mp failed) with unknown | invalid |
        ⟨cache, digits, rest, parts, long, same⟩
      · exact .inl unknown
      · exact .inr (.inl invalid)
      · rw [Kind.kind_fresh] at cache
        exact .inr (.inr ⟨digits.length, ⟨opens, rule, digits, rest, resolved, cache, parts, rfl, long⟩,
          same⟩)
  all_goals exact .inl (Except.error.inj failed).symm

theorem makeNode_of_overlong (overlong : builder.Overlong fragment n) :
    builder.makeNode fragment = .error (.numberTooLong n) := by
  obtain ⟨opens, rule, digits, rest, resolved, cache, parts, rfl, long⟩ := overlong
  have read : rule.kind.fresh.read fragment = .error (.numberTooLong digits.length) := by
    rw [cache]
    exact parts.readCache_eq.trans (if_neg (Nat.not_le_of_lt long))
  rw [makeNode, opens]
  dsimp only
  rw [resolved]
  exact Node.ofFragment_error_iff.mpr read

theorem checkClose_error {node : Node} {closing : Text}
    (failed : builder.checkClose node closing = .error error) :
    error = .mismatchedClose node closing ∨
      (error = .blankClosing ∧ closing ≠ [] ∧ closing.words = []) := by
  unfold checkClose at failed
  split at failed
  · rcases bind_eq_error.mp failed with refused | ⟨accepted, -, failed⟩
    · unfold Node.acceptsClose closingKeyword at refused
      split at refused
      · cases refused
      next filled =>
        split at refused
        next blank => exact .inr ⟨(Except.error.inj refused).symm, filled, blank⟩
        · cases refused
    · split at failed
      · cases failed
      · exact .inl (Except.error.inj failed).symm
  · cases failed

theorem finish_error (failed : finish scopes = .error error) (some : scopes ≠ []) :
    ∃ node, error = .unclosed node := by
  unfold finish at failed
  split at failed
  · exact absurd rfl some
  · cases failed
  next scope _ _ => exact ⟨scope.node, (Except.error.inj failed).symm⟩

theorem build_error (failed : builder.build fragments sourceId = .error error) :
    error.IsSyntax ∨ (error.IsNesting ∧ ∀ node, error ≠ .childOfLeaf node) ∨
    (error = .blankClosing ∧ ∃ fragment ∈ fragments, fragment.kind = .closeTag ∧ fragment.clean ≠ [] ∧
      fragment.clean.words = []) ∨
    ∃ n front fragment back scopes, fragments = front ++ fragment :: back ∧
      builder.run [{ node := .root sourceId }] front = .ok scopes ∧ builder.Overlong fragment n ∧
      error = .numberTooLong n := by
  have start : [({ node := .root sourceId } : Scope)] ≠ [] := List.cons_ne_nil _ _
  rcases bind_eq_error.mp failed with stops | ⟨scopes, ran, failed⟩
  · obtain ⟨front, fragment, back, scopes, rfl, ran, stops⟩ := run_error stops
    rcases step_error (sound_run (sound_root sourceId) ran) stops with rfl |
      ⟨closing, scope, -, refused⟩ | ⟨-, refused⟩ | ⟨node, scope, -, -, -, -, rfl⟩
    · exact .inr (.inl ⟨trivial, nofun⟩)
    · rcases checkClose_error refused with rfl | ⟨rfl, filled, blank⟩
      · exact .inr (.inl ⟨trivial, nofun⟩)
      · exact .inr (.inr (.inl ⟨rfl, fragment, by simp, closing, filled, blank⟩))
    · rcases makeNode_error refused with rfl | rfl | ⟨n, overlong, rfl⟩
      · exact .inl trivial
      · exact .inl trivial
      · exact .inr (.inr (.inr ⟨n, front, fragment, back, scopes, rfl, ran, overlong, rfl⟩))
    · exact .inl trivial
  · obtain ⟨node, rfl⟩ := finish_error failed (run_ne_nil start ran)
    exact .inr (.inl ⟨trivial, nofun⟩)

theorem build_overlong {front back : List Fragment}
    (ran : builder.run [{ node := .root sourceId }] front = .ok scopes)
    (overlong : builder.Overlong fragment n) :
    builder.build (front ++ fragment :: back) sourceId = .error (.numberTooLong n) := by
  have start : [({ node := .root sourceId } : Scope)] ≠ [] := List.cons_ne_nil _ _
  have refused := makeNode_of_overlong overlong
  have opens : fragment.kind ≠ .closeTag := by
    rw [overlong.1]
    decide
  rw [build, run_append, ran]
  cases scopes with
  | nil => exact absurd rfl (run_ne_nil start ran)
  | cons scope outer => simp [Except.bind, run, step, opens, refused, bind]

end Builder

theorem words_of_closing {delimiters : Delimiters} {text : Text} {fragment : Fragment}
    (member : fragment ∈ tokenize delimiters text) (closing : fragment.kind = .closeTag) :
    fragment.clean.words ≠ [] := by
  obtain ⟨raw, body, rfl⟩ := Fragment.exists_ofBlock member (.inr closing)
  have isClosing : Fragment.isClosingTag body.trim = true := by
    by_contra other
    rw [Fragment.ofBlock, if_neg other] at closing
    cases closing
  have filled : body.trim ≠ [] := by
    intro empty
    rw [empty] at isClosing
    cases isClosing
  have first := Text.head_words (Text.trimmed_trim body) filled
  exact List.ne_nil_of_mem (List.mem_of_mem_head? first)

namespace Compiler

/-- A compilation ends with a tree, a syntax error, a nesting error, or a number that is too long. The
last happens exactly where the run reaches a cache tag with such a number. -/
theorem compile_outcome (config : Config) (text sourceId : Text) :
    ((∃ tree, compile { config } text sourceId = .ok tree) ∨
      ∃ error, compile { config } text sourceId = .error error ∧
        (error.IsSyntax ∨ error.IsNesting ∨ ∃ n, error = .numberTooLong n)) ∧
    ∀ n, compile { config } text sourceId = .error (.numberTooLong n) ↔
      ∃ front fragment back scopes, tokenize { config } text = front ++ fragment :: back ∧
        (builder { config }).run [{ node := .root sourceId }] front = .ok scopes ∧
        (builder { config }).Overlong fragment n := by
  constructor
  · cases compiled : compile { config } text sourceId with
    | ok tree => exact .inl ⟨tree, rfl⟩
    | error error =>
        refine .inr ⟨error, rfl, ?_⟩
        rcases Builder.build_error compiled with syntactic | ⟨nesting, -⟩ |
          ⟨-, fragment, member, closing, -, blank⟩ | ⟨n, -, -, -, -, -, -, -, rfl⟩
        · exact .inl syntactic
        · exact .inr (.inl nesting)
        · exact absurd blank (words_of_closing member closing)
        · exact .inr (.inr ⟨n, rfl⟩)
  · intro n
    constructor
    · intro failed
      rcases Builder.build_error failed with syntactic | ⟨nesting, -⟩ | ⟨blank, -⟩ |
        ⟨n, front, fragment, back, scopes, split, ran, overlong, same⟩
      · exact syntactic.elim
      · exact nesting.elim
      · cases blank
      · obtain rfl := TreeError.numberTooLong.inj same
        exact ⟨front, fragment, back, scopes, split, ran, overlong⟩
    · rintro ⟨front, fragment, back, scopes, split, ran, overlong⟩
      rw [compile, split]
      exact Builder.build_overlong ran overlong

def cacheText (digits : Text) : Text :=
  "\x7b% cache ".toList ++ (digits ++ " k %\x7d\x7b% endcache %\x7d".toList)

theorem overlong_cache {digits : Text} (ascii : ∀ c ∈ digits, c.isDigit = true)
    (long : 4300 < digits.length) (raw : Text) : ({ registry := .standard } : Builder).Overlong
      (.ofBlock raw (Kind.cache.name ++ ' ' :: (digits ++ [' ', 'k']))) digits.length := by
  have some : digits ≠ [] := by
    rintro rfl
    cases long
  have members : ∀ c ∈ digits, Text.isDigit c = true :=
    fun c member => Text.isDigit_of_ascii (ascii c member)
  have resolved : Registry.standard.resolve (Kind.cache.name ++ ' ' :: (digits ++ [' ', 'k'])) =
      .ok TagRule.builtIn[6] := by
    apply Registry.resolve_of_split (TagRule.builtIn.take 6) rfl
    · simp only [TagRule.builtIn, List.take, List.forall_mem_cons]
      exact ⟨rfl, rfl, rfl, rfl, rfl, rfl, List.forall_mem_nil _⟩
    · exact Pattern.word_append Kind.cache.name (Pattern.blanks_space
        (Pattern.some_append some members (Pattern.blanks_space rfl)))
  exact ⟨rfl, _, digits, ['k'], resolved, rfl, ⟨[' '], ' ', rfl, List.cons_ne_nil _ _,
    Text.isBlank_of_mem_space, some, members, rfl, List.cons_ne_nil _ _⟩, rfl, long⟩

theorem clean_cache {digits : Text} (ascii : ∀ c ∈ digits, c.isDigit = true) :
    (Markup.block [' '] (Kind.cache.name ++ ' ' :: (digits ++ [' ', 'k'])) [' ']).Clean := by
  have outside {c : Char} (noDigit : c.isDigit = false) (elsewhere : c ∉ Kind.cache.name ++ [' ', 'k']) :
      c ∉ Kind.cache.name ++ ' ' :: (digits ++ [' ', 'k']) := by
    have notIn : c ∉ digits := by
      intro member
      rw [ascii c member] at noDigit
      cases noDigit
    simp only [List.mem_append, List.mem_cons] at elsewhere ⊢
    tauto
  have trimmed : Text.Trimmed (Kind.cache.name ++ ' ' :: (digits ++ [' ', 'k'])) := by
    constructor
    · rintro c ⟨⟩
      rfl
    · have shape : Kind.cache.name ++ ' ' :: (digits ++ [' ', 'k']) =
          Kind.cache.name ++ ' ' :: (digits ++ [' ']) ++ ['k'] := by simp
      rw [shape, List.getLast?_concat]
      rintro c ⟨⟩
      rfl
  apply Markup.clean_block trimmed.trim_eq
  · exact outside (by decide) (by decide)
  · exact Text.avoids_of_notMem (outside (by decide) (by decide))
  · exact Text.avoids_of_notMem (outside (by decide) (by decide))

theorem compile_cache {digits : Text} (ascii : ∀ c ∈ digits, c.isDigit = true)
    (long : 4300 < digits.length) (sourceId : Text) :
    compile {} (cacheText digits) sourceId = .error (.numberTooLong digits.length) := by
  have closing : (Markup.block [' '] "endcache".toList [' ']).Clean :=
    Markup.clean_block (by decide) (by decide) (Text.avoids_of_notMem (by decide))
      (Text.avoids_of_notMem (by decide))
  have both : ∀ markup ∈ [Markup.block [' '] (Kind.cache.name ++ ' ' :: (digits ++ [' ', 'k'])) [' '],
      .block [' '] "endcache".toList [' ']], markup.Clean :=
    List.forall_mem_cons.mpr ⟨clean_cache ascii, List.forall_mem_singleton.mpr closing⟩
  have fragments := Tree.tokenize_clean both (.cons_cons (.inl rfl) (.singleton _))
  have raw : [Markup.block [' '] (Kind.cache.name ++ ' ' :: (digits ++ [' ', 'k'])) [' '],
      .block [' '] "endcache".toList [' ']].flatMap (Markup.raw .standard) = cacheText digits := by
    simp only [List.flatMap_cons, List.flatMap_nil, Markup.raw, Enclosure.wrap, List.append_assoc,
      List.cons_append]
    rfl
  rw [raw] at fragments
  rw [compile, tokenize]
  change Builder.build _ (TemplateTree.tokenize .standard (cacheText digits)) sourceId = _
  rw [fragments]
  have start : (builder {}).run [{ node := .root sourceId }] [] = .ok [{ node := .root sourceId }] := rfl
  exact Builder.build_overlong start (overlong_cache ascii long _)

theorem compile_overlong :
    compile {} (cacheText (List.replicate 4301 '1')) [] = .error (.numberTooLong 4301) ∧
      ¬ (TreeError.numberTooLong 4301).IsSyntax ∧ ¬ (TreeError.numberTooLong 4301).IsNesting := by
  have ascii : ∀ c ∈ List.replicate 4301 '1', c.isDigit = true := by
    intro c member
    rw [List.eq_of_mem_replicate member]
    rfl
  have length : (List.replicate 4301 '1').length = 4301 := List.length_replicate
  have refused := compile_cache ascii (by rw [length]; decide) []
  rw [length] at refused
  exact ⟨refused, id, id⟩

end Compiler

end TemplateTree
