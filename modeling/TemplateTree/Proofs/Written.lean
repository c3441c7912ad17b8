import Mathlib.Data.List.Basic
import TemplateTree.Node.Reading
import TemplateTree.Proofs.Blank
import TemplateTree.Proofs.Occurrence

/-!
# Tags as they are written

A content is written as a tag with single blanks between its parts. The main statement is
`Content.read_written`: a node takes its content back from the tag.
-/

namespace TemplateTree

namespace Text

/-! ## Arguments -/

variable {text word argument before : Text}

theorem argument?_append (keyword : Text) (trimmed : argument.Trimmed) (filled : argument ≠ []) :
    argument? (keyword ++ ' ' :: argument) keyword = some argument := by
  rw [argument?, dropPrefix?_append]
  simp only [isBlank_space, Bool.true_and, decide_eq_true_eq, ne_eq, filled, not_false_eq_true, if_true]
  rw [trimmed.trim_eq]

theorem argument?_of_word (solid : ∀ c ∈ word, isBlank c = false) (filled : word ≠ [])
    (other : word ≠ inWord) (apart : ∀ c ∈ text.head?, c = ',' ∨ c = ' ') :
    argument? (word ++ text) inWord = none := by
  cases found : dropPrefix? (word ++ text) inWord with
  | none => rw [argument?, found]
  | some rest =>
      have joined := dropPrefix?_eq_some_iff.mp found
      rw [argument?, found]
      cases rest with
      | nil => rfl
      | cons c rest =>
          have solidHere : isBlank c = false := by
            cases word with
            | nil => exact absurd rfl filled
            | cons first word =>
                obtain ⟨rfl, behindFirst⟩ := List.cons.inj joined
                cases word with
                | nil =>
                    -- the text behind the word does not start with the second letter
                    change text = 'n' :: c :: rest at behindFirst
                    rw [behindFirst] at apart
                    rcases apart 'n' rfl with same | same <;> cases same
                | cons second word =>
                    obtain ⟨rfl, behindSecond⟩ := List.cons.inj behindFirst
                    cases word with
                    | nil => exact absurd rfl other
                    | cons third word =>
                        obtain ⟨same, -⟩ := List.cons.inj behindSecond
                        exact same ▸ solid third (by simp)
          simp only [solidHere, Bool.false_and, Bool.false_eq_true, if_false]

/-! ## Loops -/

theorem cutAtIn?_append (solid : ∀ c ∈ word, isBlank c = false) :
    cutAtIn? before (word ++ text) = cutAtIn? (word.reverse ++ before) text := by
  induction word generalizing before with
  | nil => rfl
  | cons c word ih =>
      obtain ⟨here, behind⟩ := List.forall_mem_cons.mp solid
      rw [List.cons_append, cutAtIn?, here, if_neg Bool.false_ne_true]
      dsimp only
      rw [ih behind, List.reverse_cons, List.append_assoc]
      rfl

theorem cutAtIn?_inWord (trimmed : argument.Trimmed) (filled : argument ≠ []) :
    cutAtIn? before (' ' :: (inWord ++ ' ' :: argument)) = some (before.reverse, argument) := by
  have solid : (inWord ++ ' ' :: argument).dropWhile isBlank = inWord ++ ' ' :: argument := by
    apply dropWhile_of_head
    rintro c ⟨⟩
    decide
  rw [cutAtIn?, isBlank_space, if_pos rfl, solid, argument?_append inWord trimmed filled]

theorem cutAtIn?_word (solid : ∀ c ∈ word, isBlank c = false) (filled : word ≠ [])
    (other : word ≠ inWord) (apart : ∀ c ∈ text.head?, c = ',' ∨ c = ' ') :
    cutAtIn? before (' ' :: (word ++ text)) = cutAtIn? (word.reverse ++ ' ' :: before) text := by
  have start : (word ++ text).dropWhile isBlank = word ++ text := by
    apply dropWhile_of_head
    cases word with
    | nil => exact absurd rfl filled
    | cons c word =>
        rintro d ⟨⟩
        exact solid c List.mem_cons_self
  rw [cutAtIn?, isBlank_space, if_pos rfl, start, argument?_of_word solid filled other apart]
  exact cutAtIn?_append solid

structure IsTarget (word : Text) : Prop where
  filled : word ≠ []
  plain : ∀ c ∈ word, c.isAlphanum = true ∨ c = '_'
  other : word ≠ inWord

theorem IsTarget.isWordChar (target : word.IsTarget) {c : Char} (member : c ∈ word) :
    isWordChar c = true := by
  rcases target.plain c member with plain | rfl
  · exact isWordChar_of_isAlphanum plain
  · decide

theorem IsTarget.isBlank (target : word.IsTarget) {c : Char} (member : c ∈ word) :
    isBlank c = false :=
  isBlank_of_isWordChar (target.isWordChar member)

theorem joined_cons (mark first : Text) (rest : List Text) :
    joined mark (first :: rest) = first ++ rest.flatMap (mark ++ ·) := by
  cases rest with
  | nil => exact (List.append_nil first).symm
  | cons second rest => rfl

theorem cutAtIn?_targets {rest : List Text} (targets : ∀ target ∈ rest, target.IsTarget)
    (trimmed : argument.Trimmed) (filled : argument ≠ []) :
    cutAtIn? before (rest.flatMap ([',', ' '] ++ ·) ++ ' ' :: (inWord ++ ' ' :: argument)) =
      some (before.reverse ++ rest.flatMap ([',', ' '] ++ ·), argument) := by
  induction rest generalizing before with
  | nil =>
      rw [List.flatMap_nil, List.nil_append, List.append_nil]
      exact cutAtIn?_inWord trimmed filled
  | cons target rest ih =>
      obtain ⟨here, behind⟩ := List.forall_mem_cons.mp targets
      have comma : ∀ c ∈ [','], isBlank c = false := List.forall_mem_singleton.mpr rfl
      have apart : ∀ c ∈ (rest.flatMap ([',', ' '] ++ ·) ++ ' ' :: (inWord ++ ' ' :: argument)).head?,
          c = ',' ∨ c = ' ' := by
        cases rest with
        | nil => rintro c ⟨⟩; exact .inr rfl
        | cons next rest => rintro c ⟨⟩; exact .inl rfl
      have shape : (target :: rest).flatMap ([',', ' '] ++ ·) ++ ' ' :: (inWord ++ ' ' :: argument) =
          [','] ++ ' ' :: (target ++
            (rest.flatMap ([',', ' '] ++ ·) ++ ' ' :: (inWord ++ ' ' :: argument))) := by
        simp
      rw [shape, cutAtIn?_append comma, cutAtIn?_word (fun c => here.isBlank) here.filled here.other apart,
        ih behind]
      simp

theorem IsTarget.trim (target : word.IsTarget) : word.trim = word :=
  (trimmed_of_word fun _ => target.isWordChar).trim_eq

theorem IsTarget.noComma (target : word.IsTarget) : ∀ c ∈ word, decide (c = ',') = false := by
  intro c member
  rw [decide_eq_false_iff_not]
  rintro rfl
  have word := target.isWordChar member
  revert word
  decide

theorem pieces_joined {first : Text} {rest : List Text} (whole : ∀ c ∈ first, decide (c = ',') = false)
    (all : ∀ target ∈ rest, target.IsTarget) :
    pieces (· = ',') (first ++ rest.flatMap ([',', ' '] ++ ·)) = first :: rest.map (' ' :: ·) := by
  induction rest generalizing first with
  | nil =>
      rw [List.flatMap_nil, List.append_nil]
      exact pieces_of_whole whole
  | cons second rest ih =>
      obtain ⟨here, behind⟩ := List.forall_mem_cons.mp all
      have next : ∀ c ∈ ' ' :: second, decide (c = ',') = false :=
        List.forall_mem_cons.mpr ⟨by decide, here.noComma⟩
      have shape : first ++ (second :: rest).flatMap ([',', ' '] ++ ·) =
          first ++ ',' :: (' ' :: second ++ rest.flatMap ([',', ' '] ++ ·)) := by
        simp
      rw [shape, pieces_append_cons (by decide), pieces_of_whole whole, ih next behind, List.map_cons]
      rfl

theorem trim_space (text : Text) : trim (' ' :: text) = trim text := by
  have nothing : ∀ c ∈ [], isBlank c = true := List.forall_mem_nil _
  have padded : trim ([' '] ++ (text ++ [])) = trim text := trim_pad isBlank_of_mem_space nothing
  rwa [List.append_nil] at padded

theorem listed_joined {targets : List Text} (all : ∀ target ∈ targets, target.IsTarget) :
    listed (joined [',', ' '] targets) = targets := by
  cases targets with
  | nil => rfl
  | cons first rest =>
      obtain ⟨here, behind⟩ := List.forall_mem_cons.mp all
      have trimmed : (rest.map (' ' :: ·)).map trim = rest := by
        rw [List.map_map]
        apply (List.map_congr_left _).trans (List.map_id rest)
        intro target member
        exact (trim_space target).trans (behind target member).trim
      rw [joined_cons, listed, pieces_joined here.noComma behind, List.map_cons, here.trim, trimmed]
      apply List.filter_eq_self.mpr
      intro target member
      exact decide_eq_true (all target member).filled

theorem loopParts?_written {first : Text} {rest : List Text} {iterable : Text}
    (here : first.IsTarget) (behind : ∀ target ∈ rest, target.IsTarget) (trimmed : iterable.Trimmed)
    (filled : iterable ≠ []) :
    Content.loopParts? (Kind.loop.name ++ ' ' ::
        (joined [',', ' '] (first :: rest) ++ ' ' :: (inWord ++ ' ' :: iterable))) =
      some (joined [',', ' '] (first :: rest), iterable) := by
  have cut : cutAtIn? [] (joined [',', ' '] (first :: rest) ++ ' ' :: (inWord ++ ' ' :: iterable)) =
      some (joined [',', ' '] (first :: rest), iterable) := by
    rw [joined_cons, List.append_assoc, cutAtIn?_append fun c => here.isBlank,
      cutAtIn?_targets behind trimmed filled]
    simp
  have start : ∀ c ∈ (joined [',', ' '] (first :: rest) ++ ' ' :: (inWord ++ ' ' :: iterable)).head?,
      isBlank c = false := by
    rw [joined_cons, List.append_assoc]
    cases first with
    | nil => exact absurd rfl here.filled
    | cons c first =>
        rintro d ⟨⟩
        exact here.isBlank List.mem_cons_self
  have none : (joined [',', ' '] (first :: rest) ++ ' ' :: (inWord ++ ' ' :: iterable)).takeWhile
      isBlank = [] := by
    cases text : joined [',', ' '] (first :: rest) ++ ' ' :: (inWord ++ ' ' :: iterable) with
    | nil => rfl
    | cons c text' =>
        rw [text] at start
        rw [List.takeWhile_cons, start c rfl, if_neg Bool.false_ne_true]
  rw [Content.loopParts?, dropPrefix?_append]
  simp only [List.takeWhile_cons, List.dropWhile_cons, isBlank_space, if_true, none, dropWhile_of_head start,
    List.cons_ne_nil, if_false, cut, Option.some_or]

/-! ## Numbers -/

theorem isDigit_of_mem_ofNat {n : Nat} {c : Char} (member : c ∈ ofNat n) : c.isDigit = true :=
  Nat.isDigit_of_mem_toDigits (by decide) (by decide) member

theorem isDigit_of_ascii {c : Char} (digit : c.isDigit = true) : isDigit c = true := by
  rw [isDigit, digitValue?_of_isDigit digit]
  rfl

theorem isBlank_of_ascii {c : Char} (digit : c.isDigit = true) : isBlank c = false := by
  apply isBlank_of_isWordChar
  apply isWordChar_of_isAlphanum
  rw [Char.isAlphanum, digit, Bool.or_true]

theorem digitsValue_ofNat (n : Nat) : digitsValue (ofNat n) = n := by
  have same (value : Nat) (c : Char) (member : c ∈ ofNat n) :
      value * 10 + (digitValue? c).getD 0 = 10 * value + (c.toNat - '0'.toNat) := by
    rw [digitValue?_of_isDigit (isDigit_of_mem_ofNat member), Nat.mul_comm]
    rfl
  rw [digitsValue, List.foldl_ext _ _ 0 same, ← Nat.ofDigitChars_eq_foldl]
  exact Nat.ofDigitChars_ten_toDigits

end Text

/-! ## Contents -/

/-- A text that can stand in a tag: no blanks at its ends, on one line, and without the start of a
comment or the end of a tag. -/
structure Text.Inline (text : Text) : Prop where
  trimmed : text.trim = text
  inLine : '\n' ∉ text
  noComment : ¬ ['{', '#'] <:+: text
  noVariableEnd : ¬ ['}', '}'] <:+: text
  noBlockEnd : ¬ ['%', '}'] <:+: text

namespace Content

def Writable : Content → Prop
  | text value => value ≠ [] ∧ '{' ∉ value
  | expression value => value.Inline
  | conditional condition => condition.Inline ∧ condition ≠ []
  | alternative => True
  | loop targets iterable => targets ≠ [] ∧ (∀ target ∈ targets, target.IsTarget) ∧
      iterable.Inline ∧ iterable ≠ []
  | inclusion target => target.Inline ∧ target ≠ []
  | block name => name.isWord = true
  | extension target => target.Inline ∧ target ≠ []
  | cache seconds key => (Text.ofNat seconds).length ≤ 4300 ∧ key.Inline ∧ key ≠ []
  | plain | leaf | root _ => False

def written : Content → Text
  | text value | expression value => value
  | conditional condition => Kind.conditional.name ++ ' ' :: condition
  | alternative => Kind.alternative.name
  | loop targets iterable => Kind.loop.name ++ ' ' ::
      (Text.joined [',', ' '] targets ++ ' ' :: (Text.inWord ++ ' ' :: iterable))
  | inclusion target => Kind.inclusion.name ++ ' ' :: target
  | block name => Kind.block.name ++ ' ' :: name
  | extension target => Kind.extension.name ++ ' ' :: target
  | cache seconds key => Kind.cache.name ++ ' ' :: (Text.ofNat seconds ++ ' ' :: key)
  | plain | leaf | root _ => []

theorem readArgument_written (keyword : Text) (make : Text → Content) {argument : Text}
    (inline : argument.Inline) (filled : argument ≠ []) :
    readArgument keyword make (keyword ++ ' ' :: argument) = .ok (make argument) := by
  rw [readArgument, Text.argument?_append keyword (Text.trim_eq_self_iff.mp inline.trimmed) filled]

theorem readLoop_written {targets : List Text} {iterable : Text}
    (writable : (loop targets iterable).Writable) :
    readLoop (loop targets iterable).written = .ok (.loop targets iterable) := by
  obtain ⟨some, all, inline, filled⟩ := writable
  cases targets with
  | nil => exact absurd rfl some
  | cons first rest =>
      obtain ⟨here, behind⟩ := List.forall_mem_cons.mp all
      have words : (first :: rest).all Text.isWord = true := by
        rw [List.all_eq_true]
        intro target member
        exact Text.isWord_iff.mpr ⟨(all target member).filled, fun c => (all target member).isWordChar⟩
      have parts := Text.loopParts?_written here behind (Text.trim_eq_self_iff.mp inline.trimmed) filled
      rw [readLoop, written, parts]
      dsimp only
      rw [Text.listed_joined all, words]
      rfl

theorem readBlock_written {name : Text} (word : name.isWord = true) :
    readBlock (block name).written = .ok (.block name) := by
  obtain ⟨filled, members⟩ := Text.isWord_iff.mp word
  have start : (' ' :: name).dropWhile Text.isBlank = name := by
    rw [List.dropWhile_cons, Text.isBlank_space, if_pos rfl]
    apply Text.dropWhile_of_head
    intro c first
    exact Text.isBlank_of_isWordChar (members c (List.mem_of_mem_head? first))
  have whole : name.takeWhile Text.isWordChar = name := List.takeWhile_eq_self_iff.mpr members
  have behind : name.dropWhile Text.isWordChar = [] := List.dropWhile_eq_nil_iff.mpr members
  rw [readBlock, written, Text.dropPrefix?_append]
  simp [start, whole, behind, filled]

theorem readCache_written {seconds : Nat} {key : Text} (writable : (cache seconds key).Writable) :
    readCache (cache seconds key).written = .ok (.cache seconds key) := by
  obtain ⟨short, inline, filled⟩ := writable
  have some : Text.ofNat seconds ≠ [] := Nat.toDigits_ne_nil
  have start : (' ' :: (Text.ofNat seconds ++ ' ' :: key)).dropWhile Text.isBlank =
      Text.ofNat seconds ++ ' ' :: key := by
    rw [List.dropWhile_cons, Text.isBlank_space, if_pos rfl]
    apply Text.dropWhile_of_head
    intro c first
    rw [List.head?_append_of_ne_nil _ some] at first
    exact Text.isBlank_of_ascii (Text.isDigit_of_mem_ofNat (List.mem_of_mem_head? first))
  have digits : (Text.ofNat seconds ++ ' ' :: key).takeWhile Text.isDigit = Text.ofNat seconds := by
    have noDigit : Text.isDigit ' ' = false := by decide
    rw [List.takeWhile_append_of_pos, List.takeWhile_cons, noDigit, if_neg Bool.false_ne_true,
      List.append_nil]
    intro c member
    exact Text.isDigit_of_ascii (Text.isDigit_of_mem_ofNat member)
  have argument := Text.argument?_append (Text.ofNat seconds)
    (Text.trim_eq_self_iff.mp inline.trimmed) filled
  have limit : (Text.ofNat seconds).length ≤ TreeError.digitLimit := short
  rw [readCache, written, Text.dropPrefix?_append]
  simp [start, digits, argument, limit, some, Text.digitsValue_ofNat]

theorem read_written {content : Content} (writable : content.Writable) {fragment : Fragment}
    (clean : fragment.clean = content.written) (raw : content.kind = .text → fragment.raw = content.written) :
    content.kind.fresh.read fragment = .ok content := by
  cases content with
  | plain => cases writable
  | leaf => cases writable
  | root sourceId => cases writable
  | text value => exact congrArg _ (congrArg _ (raw rfl))
  | expression value => exact congrArg _ (congrArg _ clean)
  | alternative => rfl
  | conditional condition =>
      change readArgument _ _ fragment.clean = _
      rw [clean]
      exact readArgument_written _ _ writable.1 writable.2
  | inclusion target =>
      change readArgument _ _ fragment.clean = _
      rw [clean]
      exact readArgument_written _ _ writable.1 writable.2
  | extension target =>
      change readArgument _ _ fragment.clean = _
      rw [clean]
      exact readArgument_written _ _ writable.1 writable.2
  | loop targets iterable =>
      change readLoop fragment.clean = _
      rw [clean]
      exact readLoop_written writable
  | block name =>
      change readBlock fragment.clean = _
      rw [clean]
      exact readBlock_written writable
  | cache seconds key =>
      change readCache fragment.clean = _
      rw [clean]
      exact readCache_written writable

end Content

end TemplateTree
