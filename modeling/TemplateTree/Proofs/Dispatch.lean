import TemplateTree.Proofs.Written
import TemplateTree.Registry

/-!
# Which rule reads a written tag

`Content.resolve_written` says that the built-in rules tell the kind of a written tag: the keyword of
each rule refuses the tags of all others, and its pattern accepts its own.
-/

namespace TemplateTree

/-! ## Patterns -/

namespace Pattern

variable {isMember : Char → Bool} {next : Pattern} {front back text : Text}

theorem many_of_next (accepts : next back = true) : many isMember next back = true := by
  cases back with
  | nil => exact accepts
  | cons c back => rw [many, accepts, Bool.true_or]

theorem many_append (members : ∀ c ∈ front, isMember c = true) (accepts : next back = true) :
    many isMember next (front ++ back) = true := by
  induction front with
  | nil => exact many_of_next accepts
  | cons c front ih =>
      obtain ⟨here, behind⟩ := List.forall_mem_cons.mp members
      rw [List.cons_append, many, here, ih behind, Bool.true_and, Bool.or_true]

theorem some_append (filled : front ≠ []) (members : ∀ c ∈ front, isMember c = true)
    (accepts : next back = true) : some isMember next (front ++ back) = true := by
  cases front with
  | nil => exact absurd rfl filled
  | cons c front =>
      obtain ⟨here, behind⟩ := List.forall_mem_cons.mp members
      rw [some, List.cons_append, one, here, many_append behind accepts, Bool.true_and]

theorem blanks_space (accepts : next back = true) : blanks next (' ' :: back) = true := by
  exact some_append (List.cons_ne_nil ' ' []) Text.isBlank_of_mem_space accepts

theorem word_append (keyword : Text) (accepts : next back = true) :
    word keyword next (keyword ++ back) = true := by
  rw [word, Text.dropPrefix?_append]
  exact accepts

theorem restOfLine_of_inLine {text : Text} (filled : text ≠ []) (inLine : '\n' ∉ text) :
    restOfLine text = true := by
  have members : ∀ c ∈ text, isLineChar c = true := by
    intro c member
    rw [isLineChar, decide_eq_true_eq]
    rintro rfl
    exact inLine member
  have accepts : lineEnd [] = true := rfl
  have whole := some_append filled members accepts
  rwa [List.append_nil] at whole

theorem word_iff {expected : Text} :
    word expected next text = true ↔ ∃ rest, text = expected ++ rest ∧ next rest = true := by
  constructor
  · intro accepts
    unfold word at accepts
    split at accepts
    next rest found => exact ⟨rest, Text.dropPrefix?_eq_some_iff.mp found, accepts⟩
    · cases accepts
  · rintro ⟨rest, rfl, accepts⟩
    exact word_append expected accepts

theorem many_iff : many isMember next text = true ↔
    ∃ front back, text = front ++ back ∧ (∀ c ∈ front, isMember c = true) ∧ next back = true := by
  constructor
  · intro accepts
    induction text with
    | nil => exact ⟨[], [], rfl, List.forall_mem_nil _, accepts⟩
    | cons c text ih =>
        rw [many, Bool.or_eq_true, Bool.and_eq_true] at accepts
        rcases accepts with here | ⟨member, behind⟩
        · exact ⟨[], c :: text, rfl, List.forall_mem_nil _, here⟩
        · obtain ⟨front, back, rfl, members, accepts⟩ := ih behind
          exact ⟨c :: front, back, rfl, List.forall_mem_cons.mpr ⟨member, members⟩, accepts⟩
  · rintro ⟨front, back, rfl, members, accepts⟩
    exact many_append members accepts

theorem one_iff : one isMember next text = true ↔
    ∃ c rest, text = c :: rest ∧ isMember c = true ∧ next rest = true := by
  cases text with
  | nil => simp [one]
  | cons c text => simp [one]

theorem some_iff : some isMember next text = true ↔ ∃ front back, text = front ++ back ∧ front ≠ [] ∧
    (∀ c ∈ front, isMember c = true) ∧ next back = true := by
  constructor
  · intro accepts
    obtain ⟨c, rest, rfl, member, accepts⟩ := one_iff.mp accepts
    obtain ⟨front, back, rfl, members, accepts⟩ := many_iff.mp accepts
    exact ⟨c :: front, back, rfl, List.cons_ne_nil c front, List.forall_mem_cons.mpr ⟨member, members⟩,
      accepts⟩
  · rintro ⟨front, back, rfl, filled, members, accepts⟩
    exact some_append filled members accepts

theorem blanks_iff : blanks next text = true ↔ ∃ gap rest, text = gap ++ rest ∧ gap ≠ [] ∧
    (∀ c ∈ gap, Text.isBlank c = true) ∧ next rest = true :=
  some_iff

theorem lineEnd_iff : lineEnd text = true ↔ text = [] ∨ text = ['\n'] := by
  simp [lineEnd]

theorem restOfLine_ne_nil (accepts : restOfLine text = true) : text ≠ [] := by
  obtain ⟨front, back, rfl, filled, -⟩ := some_iff.mp accepts
  exact List.append_ne_nil_of_left_ne_nil filled back

end Pattern

/-! ## Rules -/

namespace Registry

theorem resolve_of_split {registry : Registry} (front : List TagRule) {back : List TagRule}
    {rule : TagRule} {tag : Text} (split : registry.rules = front ++ rule :: back)
    (refuse : ∀ other ∈ front, other.pattern tag = false) (accepts : rule.pattern tag = true) :
    registry.resolve tag = .ok rule := by
  have nothing : front.find? (·.pattern tag) = none := by
    rw [List.find?_eq_none]
    intro other member
    rw [refuse other member]
    exact Bool.false_ne_true
  rw [resolve, split, List.find?_append, nothing, Option.none_or, List.find?_cons, accepts]

theorem accepts_of_resolve {registry : Registry} {rule : TagRule} {tag : Text}
    (resolved : registry.resolve tag = .ok rule) : rule ∈ registry.rules ∧ rule.pattern tag = true := by
  unfold resolve at resolved
  split at resolved
  next other found =>
    obtain rfl := Except.ok.inj resolved
    have accepts := List.find?_some found
    exact ⟨List.mem_of_find?_eq_some found, accepts⟩
  · cases resolved

end Registry

namespace Pattern

variable {argument : Text}

theorem keyword_written (expected : Text) (inline : argument.Inline) (filled : argument ≠ []) :
    keyword expected (expected ++ ' ' :: argument) = true :=
  word_append expected (blanks_space (restOfLine_of_inLine filled inline.inLine))

theorem isLineChar_of_inline (inline : argument.Inline) : ∀ c ∈ argument, isLineChar c = true := by
  intro c member
  rw [isLineChar, decide_eq_true_eq]
  rintro rfl
  exact inline.inLine member

theorem conditional_written (expected : Text) (inline : argument.Inline) :
    word expected (blanks (many isLineChar lineEnd)) (expected ++ ' ' :: argument) = true := by
  have ends : lineEnd [] = true := rfl
  have line := many_append (isLineChar_of_inline inline) ends
  rw [List.append_nil] at line
  exact word_append expected (blanks_space line)

theorem block_written (expected : Text) {name : Text} (isWord : name.isWord = true) :
    word expected (blanks (some Text.isWordChar lineEnd)) (expected ++ ' ' :: name) = true := by
  obtain ⟨filled, members⟩ := Text.isWord_iff.mp isWord
  have ends : lineEnd [] = true := rfl
  have line := some_append filled members ends
  rw [List.append_nil] at line
  exact word_append expected (blanks_space line)

theorem cache_written (expected : Text) (seconds : Nat) (inline : argument.Inline)
    (filled : argument ≠ []) :
    word expected (blanks (some Text.isDigit (blanks (one isLineChar anything))))
      (expected ++ ' ' :: (Text.ofNat seconds ++ ' ' :: argument)) = true := by
  have key : one isLineChar anything argument = true := by
    cases argument with
    | nil => exact absurd rfl filled
    | cons c argument =>
        rw [one, isLineChar_of_inline inline c List.mem_cons_self]
        rfl
  have digits : ∀ c ∈ Text.ofNat seconds, Text.isDigit c = true :=
    fun c member => Text.isDigit_of_ascii (Text.isDigit_of_mem_ofNat member)
  have some : Text.ofNat seconds ≠ [] := Nat.toDigits_ne_nil
  exact word_append expected (blanks_space (some_append some digits (blanks_space key)))

theorem loop_written (expected : Text) {first : Text} {rest : List Text} (here : first.IsTarget)
    (behind : ∀ target ∈ rest, target.IsTarget) (inline : argument.Inline) (filled : argument ≠ []) :
    word expected (blanks (one Text.isWordChar (many TagRule.isTargetChar
        (blanks (word Text.inWord (blanks restOfLine))))))
      (expected ++ ' ' :: (Text.joined [',', ' '] (first :: rest) ++
        ' ' :: (Text.inWord ++ ' ' :: argument))) = true := by
  have chars {target : Text} (isTarget : target.IsTarget) :
      ∀ c ∈ target, TagRule.isTargetChar c = true := by
    intro c member
    rcases isTarget.plain c member with plain | rfl
    · simp [TagRule.isTargetChar, plain]
    · rfl
  have marks : ∀ c ∈ [',', ' '], TagRule.isTargetChar c = true := List.all_eq_true.mp rfl
  have more : ∀ c ∈ rest.flatMap ([',', ' '] ++ ·), TagRule.isTargetChar c = true := by
    intro c member
    obtain ⟨target, inRest, member⟩ := List.mem_flatMap.mp member
    rcases List.mem_append.mp member with mark | member
    · exact marks c mark
    · exact chars (behind target inRest) c member
  have ending : blanks (word Text.inWord (blanks restOfLine)) (' ' :: (Text.inWord ++ ' ' :: argument)) =
      true :=
    blanks_space (word_append Text.inWord (blanks_space (restOfLine_of_inLine filled inline.inLine)))
  apply word_append
  apply blanks_space
  rw [Text.joined_cons]
  have headed := chars here
  cases first with
  | nil => exact absurd rfl here.filled
  | cons c first =>
      have members : ∀ d ∈ first ++ rest.flatMap ([',', ' '] ++ ·), TagRule.isTargetChar d = true :=
        List.forall_mem_append.mpr ⟨(List.forall_mem_cons.mp headed).2, more⟩
      rw [List.cons_append, List.cons_append, one, here.isWordChar List.mem_cons_self, Bool.true_and]
      exact many_append members ending

end Pattern

namespace Content

variable {content : Content}

def isRuled (content : Content) : Bool :=
  match content with
  | text _ | expression _ => false
  | _ => true

theorem resolve_written (writable : content.Writable) (ruled : content.isRuled = true) :
    ∃ rule, Registry.standard.resolve content.written = .ok rule ∧ rule.kind = content.kind := by
  cases content with
  | plain => cases writable
  | leaf => cases writable
  | root sourceId => cases writable
  | text value => cases ruled
  | expression value => cases ruled
  | alternative => exact ⟨_, rfl, rfl⟩
  | conditional condition =>
      refine ⟨_, Registry.resolve_of_split [] rfl (List.forall_mem_nil _) ?_, rfl⟩
      exact Pattern.conditional_written Kind.conditional.name writable.1
  | loop targets iterable =>
      refine ⟨_, Registry.resolve_of_split (TagRule.builtIn.take 2) rfl ?_ ?_, rfl⟩
      · simp only [TagRule.builtIn, List.take, List.forall_mem_cons]
        exact ⟨rfl, rfl, List.forall_mem_nil _⟩
      · obtain ⟨some, all, inline, filled⟩ := writable
        cases targets with
        | nil => exact absurd rfl some
        | cons first rest =>
            obtain ⟨here, behind⟩ := List.forall_mem_cons.mp all
            exact Pattern.loop_written Kind.loop.name here behind inline filled
  | inclusion target =>
      refine ⟨_, Registry.resolve_of_split (TagRule.builtIn.take 3) rfl ?_ ?_, rfl⟩
      · simp only [TagRule.builtIn, List.take, List.forall_mem_cons]
        exact ⟨rfl, rfl, rfl, List.forall_mem_nil _⟩
      · exact Pattern.keyword_written Kind.inclusion.name writable.1 writable.2
  | block name =>
      refine ⟨_, Registry.resolve_of_split (TagRule.builtIn.take 4) rfl ?_ ?_, rfl⟩
      · simp only [TagRule.builtIn, List.take, List.forall_mem_cons]
        exact ⟨rfl, rfl, rfl, rfl, List.forall_mem_nil _⟩
      · exact Pattern.block_written Kind.block.name writable
  | extension target =>
      refine ⟨_, Registry.resolve_of_split (TagRule.builtIn.take 5) rfl ?_ ?_, rfl⟩
      · simp only [TagRule.builtIn, List.take, List.forall_mem_cons]
        exact ⟨rfl, rfl, rfl, rfl, rfl, List.forall_mem_nil _⟩
      · exact Pattern.keyword_written Kind.extension.name writable.1 writable.2
  | cache seconds key =>
      refine ⟨_, Registry.resolve_of_split (TagRule.builtIn.take 6) rfl ?_ ?_, rfl⟩
      · simp only [TagRule.builtIn, List.take, List.forall_mem_cons]
        exact ⟨rfl, rfl, rfl, rfl, rfl, rfl, List.forall_mem_nil _⟩
      · exact Pattern.cache_written Kind.cache.name seconds writable.2.1 writable.2.2

theorem isClosingTag_written (writable : content.Writable) (ruled : content.isRuled = true) :
    Fragment.isClosingTag content.written = false := by
  cases content with
  | plain => cases writable
  | leaf => cases writable
  | root sourceId => cases writable
  | text value => cases ruled
  | expression value => cases ruled
  | _ => rfl

end Content

end TemplateTree
