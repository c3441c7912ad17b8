import Mathlib.Data.List.TakeWhile
import TemplateTree.Fragment
import TemplateTree.Text.Digit

/-!
# Blanks around texts

`trim_pad` says that blanks around a text do not matter, and `trim_eq_self_iff` which texts have
none. The first word of a text decides whether it closes a scope.
-/

namespace TemplateTree.Text

/-! ## Character classes -/

theorem CodeRange.exists_of_holds {ranges : List (Nat × Nat)} {code : Nat}
    (holds : CodeRange.holds ranges code = true) :
    ∃ range ∈ ranges, range.1 ≤ code ∧ code ≤ range.2 := by
  induction ranges with
  | nil => cases holds
  | cons range ranges ih =>
      obtain ⟨first, last⟩ := range
      rw [CodeRange.holds] at holds
      by_cases before : code < first
      · rw [if_pos before] at holds
        cases holds
      · rw [if_neg before] at holds
        by_cases inside : code ≤ last
        · exact ⟨(first, last), List.mem_cons_self, by omega, inside⟩
        · rw [if_neg inside] at holds
          obtain ⟨range, member, within⟩ := ih holds
          exact ⟨range, List.mem_cons_of_mem _ member, within⟩

theorem of_isBlank (holds : Nat → Prop)
    (all : ∀ range ∈ blankRanges, ∀ code ∈ List.range' range.1 (range.2 + 1 - range.1), holds code)
    {c : Char} (blank : isBlank c = true) : holds c.toNat := by
  obtain ⟨range, member, low, high⟩ := CodeRange.exists_of_holds blank
  apply all range member
  rw [List.mem_range'_1]
  omega

theorem isWordChar_of_isBlank {c : Char} (blank : isBlank c = true) : isWordChar c = false :=
  of_isBlank (CodeRange.holds wordRanges · = false) (by decide +kernel) blank

theorem isBlank_of_isWordChar {c : Char} (word : isWordChar c = true) : isBlank c = false := by
  cases blank : isBlank c with
  | false => rfl
  | true => rw [isWordChar_of_isBlank blank] at word; cases word

theorem isWordChar_of_isAlphanum {c : Char} (plain : c.isAlphanum = true) : isWordChar c = true := by
  have ascii : ∀ code < 123, (65 ≤ code ∧ code ≤ 90 ∨ 97 ≤ code) ∨ (48 ≤ code ∧ code ≤ 57) →
      CodeRange.holds wordRanges code = true := by decide +kernel
  change ((decide (65 ≤ c.val ∧ c.val ≤ 90) || (decide (97 ≤ c.val) && decide (c.val ≤ 122))) ||
    (decide (48 ≤ c.val) && decide (c.val ≤ 57))) = true at plain
  simp only [Bool.or_eq_true, Bool.and_eq_true, decide_eq_true_eq, UInt32.le_iff_toNat_le] at plain
  change ((65 ≤ c.toNat ∧ c.toNat ≤ 90) ∨ (97 ≤ c.toNat ∧ c.toNat ≤ 122)) ∨
    (48 ≤ c.toNat ∧ c.toNat ≤ 57) at plain
  exact ascii c.toNat (by omega) (by omega)

theorem isBlank_space : isBlank ' ' = true := rfl

theorem isBlank_of_mem_space : ∀ c ∈ [' '], isBlank c = true :=
  List.all_eq_true.mp rfl

theorem isWord_iff {text : Text} :
    text.isWord = true ↔ text ≠ [] ∧ ∀ c ∈ text, isWordChar c = true := by
  rw [isWord, Bool.and_eq_true, decide_eq_true_eq, List.all_eq_true]

theorem digitValue?_of_isDigit {c : Char} (digit : c.isDigit = true) :
    digitValue? c = some (c.toNat - 48) := by
  simp only [Char.isDigit, Bool.and_eq_true, decide_eq_true_eq, UInt32.le_iff_toNat_le,
    ge_iff_le] at digit
  change 48 ≤ c.toNat ∧ c.toNat ≤ 57 at digit
  have low : ¬ c.toNat < 0x30 := by omega
  have high : c.toNat < 0x30 + 10 := by omega
  rw [digitValue?, zeroDigits, CodeRange.offset?, if_neg low, if_pos high]

theorem isDigit_of_isBlank {c : Char} (blank : isBlank c = true) : isDigit c = false :=
  of_isBlank (fun code => (CodeRange.offset? 10 zeroDigits code).isSome = false) (by decide +kernel) blank

/-! ## Trimming -/

variable {text before after front back : Text}

def Trimmed (text : Text) : Prop :=
  (∀ c ∈ text.head?, isBlank c = false) ∧ ∀ c ∈ text.getLast?, isBlank c = false

theorem dropWhile_of_head {isMember : Char → Bool} (outside : ∀ c ∈ text.head?, isMember c = false) :
    text.dropWhile isMember = text := by
  cases text with
  | nil => rfl
  | cons c text => rw [List.dropWhile_cons, outside c rfl, if_neg Bool.false_ne_true]

theorem trimRight_of_last (outside : ∀ c ∈ text.getLast?, isBlank c = false) :
    text.trimRight = text := by
  rw [trimRight, dropWhile_of_head (by rwa [List.head?_reverse]), List.reverse_reverse]

theorem Trimmed.trim_eq (trimmed : text.Trimmed) : text.trim = text := by
  rw [trim, dropWhile_of_head trimmed.1, trimRight_of_last trimmed.2]

theorem head_dropWhile (c : Char) (first : c ∈ (text.dropWhile isBlank).head?) : isBlank c = false := by
  have outside := List.head?_dropWhile_not isBlank text
  rw [Option.mem_def.mp first] at outside
  simpa using outside

theorem trimRight_prefix (text : Text) : trimRight text <+: text := by
  have suffix := List.dropWhile_suffix (l := text.reverse) isBlank
  rwa [← List.reverse_prefix, List.reverse_reverse] at suffix

theorem trimmed_trim (text : Text) : (trim text).Trimmed := by
  constructor
  · intro c first
    obtain ⟨behind, joined⟩ := trimRight_prefix (text.dropWhile isBlank)
    apply head_dropWhile c
    rw [trim] at first
    rw [← joined, List.head?_append, Option.mem_def.mp first]
    rfl
  · intro c last
    rw [trim, trimRight, List.getLast?_reverse] at last
    exact head_dropWhile c last

theorem trim_eq_self_iff : text.trim = text ↔ text.Trimmed :=
  ⟨fun same => same ▸ trimmed_trim text, Trimmed.trim_eq⟩

theorem trim_pad (blankBefore : ∀ c ∈ before, isBlank c = true)
    (blankAfter : ∀ c ∈ after, isBlank c = true) :
    trim (before ++ (text ++ after)) = trim text := by
  unfold trim trimRight
  rw [List.dropWhile_append_of_pos blankBefore, List.dropWhile_append]
  split
  next blank =>
    have nothing : after.dropWhile isBlank = [] := List.dropWhile_eq_nil_iff.mpr blankAfter
    rw [nothing, List.isEmpty_iff.mp blank]
  next =>
    rw [List.reverse_append, List.dropWhile_append_of_pos]
    intro c member
    exact blankAfter c (List.mem_reverse.mp member)

theorem Trimmed.append (first : front.Trimmed) (second : back.Trimmed) (some : front ≠ [])
    (some' : back ≠ []) (between : Text) : Trimmed (front ++ (between ++ back)) := by
  constructor
  · cases front with
    | nil => exact absurd rfl some
    | cons c front => exact first.1
  · obtain ⟨init, last, rfl⟩ := (List.eq_nil_or_concat back).resolve_left some'
    have ending := second.2
    rw [List.concat_eq_append, List.getLast?_concat] at ending
    rwa [List.concat_eq_append, ← List.append_assoc, ← List.append_assoc, List.getLast?_concat]

theorem trimmed_of_word (word : ∀ c ∈ text, isWordChar c = true) : text.Trimmed := by
  constructor
  · intro c member
    exact isBlank_of_isWordChar (word c (List.mem_of_mem_head? member))
  · intro c member
    exact isBlank_of_isWordChar (word c (List.mem_of_mem_getLast? member))

def Proper (text : Text) : Prop := text ≠ [] ∧ text.trim = text

theorem trim_eq_nil_iff : text.trim = [] ↔ ∀ c ∈ text, isBlank c = true := by
  rw [trim, trimRight, List.reverse_eq_nil_iff, List.dropWhile_eq_nil_iff]
  simp only [List.mem_reverse]
  constructor
  · intro blank
    cases left : text.dropWhile isBlank with
    | nil => exact List.dropWhile_eq_nil_iff.mp left
    | cons c behind =>
        have first : c ∈ (text.dropWhile isBlank).head? := by rw [left]; rfl
        have solid := head_dropWhile c first
        rw [blank c (by rw [left]; exact List.mem_cons_self)] at solid
        cases solid
  · intro blank c member
    exact blank c ((List.dropWhile_sublist isBlank).mem member)

theorem mem_of_mem_trim {c : Char} (member : c ∈ text.trim) : c ∈ text := by
  have kept := trimRight_prefix (text.dropWhile isBlank)
  exact (List.dropWhile_sublist isBlank).mem (kept.subset member)

theorem proper_trim {c : Char} (member : c ∈ text) (solid : isBlank c = false) : text.trim.Proper := by
  refine ⟨fun empty => ?_, (trimmed_trim text).trim_eq⟩
  rw [trim_eq_nil_iff.mp empty c member] at solid
  cases solid

theorem proper_of_isWord (word : text.isWord = true) : text.Proper := by
  obtain ⟨filled, members⟩ := isWord_iff.mp word
  exact ⟨filled, (trimmed_of_word members).trim_eq⟩

theorem Trimmed.behind {rest : Text} {c : Char} (trimmed : (front ++ c :: rest).Trimmed)
    (blank : isBlank c = true) : rest ≠ [] ∧ rest.trim.Proper := by
  have solid := trimmed.2
  rcases List.eq_nil_or_concat rest with rfl | ⟨init, last, rfl⟩
  · rw [List.getLast?_concat] at solid
    rw [solid c rfl] at blank
    cases blank
  · rw [List.concat_eq_append, ← List.cons_append, ← List.append_assoc, List.getLast?_concat] at solid
    rw [List.concat_eq_append]
    exact ⟨List.append_ne_nil_of_right_ne_nil init (List.cons_ne_nil last []),
      proper_trim (List.mem_append_right init (List.mem_singleton_self last)) (solid last rfl)⟩

theorem span_append {isMember : Char → Bool} (members : ∀ c ∈ front, isMember c = true)
    (outside : ∀ c ∈ back.head?, isMember c = false) :
    (front ++ back).takeWhile isMember = front ∧ (front ++ back).dropWhile isMember = back := by
  rw [List.dropWhile_append_of_pos members, dropWhile_of_head outside,
    List.takeWhile_append_of_pos members]
  refine ⟨?_, rfl⟩
  cases back with
  | nil => exact List.append_nil front
  | cons c back => rw [List.takeWhile_cons, outside c rfl, if_neg Bool.false_ne_true, List.append_nil]

/-! ## First words -/

theorem head_pieces (isCut : Char → Bool) (text : Text) :
    (pieces isCut text).head? = some (text.takeWhile (!isCut ·)) := by
  induction text with
  | nil => rfl
  | cons c text ih =>
      rw [pieces_cons]
      cases cut : isCut c with
      | true => simp [cut]
      | false => simp [cut, List.headD_eq_head?_getD, ih]

theorem pieces_append_cons {isCut : Char → Bool} {c : Char} (cut : isCut c = true) :
    pieces isCut (front ++ c :: back) = pieces isCut front ++ pieces isCut back := by
  induction front with
  | nil => simp [pieces_cons, cut]
  | cons d front ih =>
      cases parts : pieces isCut front with
      | nil => exact absurd parts (pieces_ne_nil isCut front)
      | cons first rest =>
          rw [parts] at ih
          rw [List.cons_append, pieces_cons, pieces_cons, ih, parts]
          cases isCut d <;> rfl

theorem pieces_of_whole {isCut : Char → Bool} (whole : ∀ c ∈ text, isCut c = false) :
    pieces isCut text = [text] := by
  induction text with
  | nil => rfl
  | cons c text ih =>
      obtain ⟨here, behind⟩ := List.forall_mem_cons.mp whole
      rw [pieces_cons, here, ih behind]
      rfl

theorem head_words (trimmed : text.Trimmed) (some : text ≠ []) :
    text.words.head? = .some (text.takeWhile (!isBlank ·)) := by
  have first := head_pieces isBlank text
  cases parts : pieces isBlank text with
  | nil => exact absurd parts (pieces_ne_nil isBlank text)
  | cons word rest =>
      rw [parts] at first
      obtain rfl := Option.some.inj first
      have filled : text.takeWhile (!isBlank ·) ≠ [] := by
        cases text with
        | nil => exact absurd rfl some
        | cons c text => simp [trimmed.1 c rfl]
      rw [words, parts, List.filter_cons_of_pos (by simpa using filled)]
      rfl

end TemplateTree.Text

namespace TemplateTree.Fragment

theorem isClosingTag_of_words {text behind : Text} (trimmed : text.Trimmed)
    (first : text.words.head? = some (endWord ++ behind)) (word : ∀ c ∈ behind, Text.isWordChar c = true) :
    isClosingTag text = true := by
  have filled : text ≠ [] := by
    rintro rfl
    cases first
  rw [Text.head_words trimmed filled] at first
  have joined := List.takeWhile_append_dropWhile (p := (!Text.isBlank ·)) (l := text)
  rw [Option.some.inj first, List.append_assoc] at joined
  have rest : (text.dropWhile (!Text.isBlank ·)).dropWhile Text.isWordChar =
      text.dropWhile (!Text.isBlank ·) := by
    apply Text.dropWhile_of_head
    intro c member
    have blank := List.head?_dropWhile_not (!Text.isBlank ·) text
    rw [Option.mem_def.mp member] at blank
    exact Text.isWordChar_of_isBlank (by simpa using blank)
  unfold isClosingTag
  conv in Text.dropPrefix? _ _ => rw [← joined]
  rw [Text.dropPrefix?_append]
  dsimp only
  rw [List.dropWhile_append_of_pos word, rest]
  split
  · rfl
  next c tail here =>
    have blank := List.head?_dropWhile_not (!Text.isBlank ·) text
    rw [here] at blank
    simpa using blank

theorem isClosingTag_iff {text : Text} (trimmed : text.Trimmed) : isClosingTag text = true ↔
    ∃ behind, text.words.head? = some (endWord ++ behind) ∧ ∀ c ∈ behind, Text.isWordChar c = true := by
  constructor
  · intro closes
    unfold isClosingTag at closes
    split at closes
    · cases closes
    next rest found =>
      have joined : text = (endWord ++ rest.takeWhile Text.isWordChar) ++ rest.dropWhile Text.isWordChar := by
        rw [List.append_assoc, List.takeWhile_append_dropWhile, Text.dropPrefix?_eq_some_iff.mp found]
      have filled : text ≠ [] := by
        rw [joined]
        exact List.cons_ne_nil _ _
      have solid : ∀ c ∈ endWord ++ rest.takeWhile Text.isWordChar, (!Text.isBlank c) = true := by
        rw [List.forall_mem_append]
        refine ⟨List.all_eq_true.mp rfl, fun c member => ?_⟩
        rw [Text.isBlank_of_isWordChar (List.mem_takeWhile_imp member), Bool.not_false]
      have outside : ∀ c ∈ (rest.dropWhile Text.isWordChar).head?, (!Text.isBlank c) = false := by
        intro c first
        cases behind : rest.dropWhile Text.isWordChar with
        | nil => simp [behind] at first
        | cons d behind' =>
            rw [behind] at first closes
            obtain rfl := Option.some.inj first
            have blank : Text.isBlank d = true := closes
            rw [blank, Bool.not_true]
      refine ⟨rest.takeWhile Text.isWordChar, ?_, fun c => List.mem_takeWhile_imp⟩
      have whole := (Text.span_append solid outside).1
      rw [← joined] at whole
      rw [Text.head_words trimmed filled, whole]
  · rintro ⟨behind, first, word⟩
    exact isClosingTag_of_words trimmed first word

end TemplateTree.Fragment
