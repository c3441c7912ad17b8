import Mathlib.Data.List.Basic
import TemplateTree.Proofs.Blank

/-!
# Words and where they stand

`words_append_cons` cuts the words of a text at a blank, and `words_behind` says which words stand behind
a number of others. With them `fromWord` and `wordRange` find words at their places in the text.
-/

namespace TemplateTree.Text

variable {text front back word : Text} {c : Char} {m n : Nat}

/-! ## Words -/

@[simp] theorem words_nil : words [] = [] := rfl

theorem words_append_cons (blank : isBlank c = true) :
    words (front ++ c :: back) = words front ++ words back := by
  rw [words, pieces_append_cons blank, List.filter_append, words, words]

theorem words_cons (blank : isBlank c = true) : words (c :: back) = words back := by
  have cut : words ([] ++ c :: back) = words [] ++ words back := words_append_cons blank
  exact cut

theorem words_dropWhile (text : Text) : words (text.dropWhile isBlank) = words text := by
  induction text with
  | nil => rfl
  | cons c text ih =>
      cases blank : isBlank c with
      | true => rw [List.dropWhile_cons, blank, if_pos rfl, ih, words_cons blank]
      | false => rw [List.dropWhile_cons, blank, if_neg Bool.false_ne_true]

theorem words_blank_append (blank : ∀ c ∈ front, isBlank c = true) : words (front ++ back) = words back := by
  rw [← words_dropWhile (front ++ back), List.dropWhile_append_of_pos blank, words_dropWhile]

theorem words_append (filled : word ≠ []) (solid : ∀ c ∈ word, isBlank c = false)
    (blank : ∀ c ∈ back.head?, isBlank c = true) : words (word ++ back) = word :: words back := by
  have first : words word = [word] := by
    rw [words, pieces_of_whole solid, List.filter_cons_of_pos (by simpa using filled)]
    rfl
  cases back with
  | nil => rw [List.append_nil, first, words_nil]
  | cons c back => rw [words_append_cons (blank c rfl), first, words_cons (blank c rfl)]; rfl

theorem ne_nil_of_mem_words (member : word ∈ words text) : word ≠ [] := by
  simpa using (List.mem_filter.mp member).2

/-! ## What stands behind words -/

def behind : (count : Nat) → (text : Text) → Text
  | 0, text => text
  | count + 1, text => behind count ((text.dropWhile isBlank).dropWhile (!isBlank ·))

theorem behind_add (m n : Nat) (text : Text) : behind (m + n) text = behind n (behind m text) := by
  induction m generalizing text with
  | zero => rw [Nat.zero_add, behind]
  | succ m ih => rw [Nat.add_right_comm, behind, behind, ih]

theorem behind_suffix (n : Nat) (text : Text) : behind n text <:+ text := by
  induction n generalizing text with
  | zero => exact List.suffix_refl text
  | succ n ih => exact (ih _).trans ((List.dropWhile_suffix _).trans (List.dropWhile_suffix _))

theorem length_behind_le (less : m ≤ n) (text : Text) : (behind n text).length ≤ (behind m text).length := by
  obtain ⟨k, rfl⟩ := Nat.exists_eq_add_of_le less
  rw [behind_add]
  exact (behind_suffix k _).length_le

theorem head_behind_one (text : Text) : ∀ c ∈ (behind 1 text).head?, isBlank c = true := by
  intro c first
  have outside := List.head?_dropWhile_not (!isBlank ·) (text.dropWhile isBlank)
  rw [behind, behind] at first
  rw [Option.mem_def.mp first] at outside
  simpa using outside

theorem head_behind (n : Nat) (text : Text) : ∀ c ∈ (behind (n + 1) text).head?, isBlank c = true :=
  behind_add n 1 text ▸ head_behind_one (behind n text)

theorem behind_one_eq (blank : ∀ c ∈ front, isBlank c = true) (filled : word ≠ [])
    (solid : ∀ c ∈ word, isBlank c = false) (ends : ∀ c ∈ back.head?, isBlank c = true) :
    behind 1 (front ++ (word ++ back)) = back := by
  have start : ∀ c ∈ (word ++ back).head?, isBlank c = false := by
    intro c first
    rw [List.head?_append_of_ne_nil _ filled] at first
    exact solid c (List.mem_of_mem_head? first)
  rw [behind, behind, (span_append blank start).2]
  exact (span_append (fun c member => by simp [solid c member]) fun c first => by simp [ends c first]).2

def firstWord (text : Text) : Text := (text.dropWhile isBlank).takeWhile (!isBlank ·)

theorem eq_append_behind (text : Text) : text = text.takeWhile isBlank ++ (firstWord text ++ behind 1 text) := by
  rw [firstWord, behind, behind, List.takeWhile_append_dropWhile, List.takeWhile_append_dropWhile]

theorem words_of_solid (filled : text.dropWhile isBlank ≠ []) :
    words text = firstWord text :: words (behind 1 text) := by
  have solid : ∀ c ∈ firstWord text, isBlank c = false := by
    intro c member
    simpa using List.mem_takeWhile_imp member
  have word : firstWord text ≠ [] := by
    rw [firstWord]
    cases start : text.dropWhile isBlank with
    | nil => exact absurd start filled
    | cons c rest =>
        have first : c ∈ (text.dropWhile isBlank).head? := by rw [start]; rfl
        simp [head_dropWhile c first]
  rw [← words_append word solid (head_behind_one text), firstWord, behind, behind,
    List.takeWhile_append_dropWhile, words_dropWhile]

theorem words_eq_nil_iff : words text = [] ↔ text.dropWhile isBlank = [] := by
  constructor
  · intro none
    by_contra filled
    rw [words_of_solid filled] at none
    cases none
  · intro empty
    rw [← words_dropWhile, empty, words_nil]

theorem words_behind (n : Nat) (text : Text) : words (behind n text) = (words text).drop n := by
  induction n generalizing text with
  | zero => rfl
  | succ n ih =>
      rw [Nat.add_comm, behind_add, ih, Nat.add_comm]
      by_cases filled : text.dropWhile isBlank = []
      · rw [words_eq_nil_iff.mpr filled, behind, behind, filled, List.dropWhile_nil, words_nil,
          List.drop_nil, List.drop_nil]
      · rw [words_of_solid filled, List.drop_succ_cons]

theorem exists_behind_cons (inside : n + 1 < (words text).length) :
    ∃ c rest, behind (n + 1) text = c :: rest ∧ isBlank c = true ∧ words rest = (words text).drop (n + 1) := by
  have more := words_behind (n + 1) text
  cases tail : behind (n + 1) text with
  | nil =>
      have sizes := congrArg List.length more
      simp only [tail, words_nil, List.length_nil, List.length_drop] at sizes
      omega
  | cons c rest =>
      have blank : isBlank c = true := head_behind n text c (by rw [tail]; rfl)
      rw [tail, words_cons blank] at more
      exact ⟨c, rest, rfl, blank, more⟩

theorem exists_behind_eq (found : (words text)[n]? = some word) :
    ∃ gap, behind n text = gap ++ (word ++ behind (n + 1) text) ∧ ∀ c ∈ gap, isBlank c = true := by
  have first : (words (behind n text)).head? = some word := by
    rw [words_behind, List.head?_drop, found]
  have filled : (behind n text).dropWhile isBlank ≠ [] := by
    intro empty
    rw [words_eq_nil_iff.mpr empty] at first
    cases first
  rw [words_of_solid filled] at first
  obtain rfl := Option.some.inj first
  rw [behind_add]
  exact ⟨_, eq_append_behind _, fun c => List.mem_takeWhile_imp⟩

theorem eq_append_behind_one (solid : ∀ c ∈ text.head?, isBlank c = false)
    (first : (words text)[0]? = some word) : text = word ++ behind 1 text := by
  obtain ⟨gap, joined, blank⟩ := exists_behind_eq first
  rw [behind] at joined
  cases gap with
  | nil => exact joined
  | cons c gap =>
      rw [joined] at solid
      have solid' : isBlank c = false := solid c rfl
      rw [blank c List.mem_cons_self] at solid'
      cases solid'

theorem length_behind_lt (inside : n < (words text).length) :
    (behind (n + 1) text).length < (behind n text).length := by
  obtain ⟨gap, here, -⟩ := exists_behind_eq (List.getElem?_eq_getElem inside)
  have filled := List.length_pos_iff.mpr (ne_nil_of_mem_words (List.getElem_mem inside))
  rw [here]
  simp only [List.length_append]
  omega

theorem last_of_suffix (ending : back <:+ text) (solid : ∀ c ∈ text.getLast?, isBlank c = false) :
    ∀ c ∈ back.getLast?, isBlank c = false := by
  obtain ⟨front, rfl⟩ := ending
  intro c last
  apply solid c
  rw [List.getLast?_append, Option.mem_def.mp last]
  rfl

theorem behind_one_append (filled : front.dropWhile isBlank ≠ [])
    (blank : ∀ c ∈ back.head?, isBlank c = true) : behind 1 (front ++ back) = behind 1 front ++ back := by
  have same : back.dropWhile (!isBlank ·) = back := dropWhile_of_head fun c first => by simp [blank c first]
  rw [behind, behind, behind, behind, List.dropWhile_append, if_neg (by simpa using filled),
    List.dropWhile_append, same]
  split
  next empty => rw [List.isEmpty_iff.mp empty, List.nil_append]
  · rfl

theorem behind_append (solid : ∀ c ∈ front.getLast?, isBlank c = false)
    (blank : ∀ c ∈ back.head?, isBlank c = true) : behind (words front).length (front ++ back) = back := by
  induction size : (words front).length generalizing front with
  | zero =>
      have blanks := List.dropWhile_eq_nil_iff.mp (words_eq_nil_iff.mp (List.length_eq_zero_iff.mp size))
      rcases List.eq_nil_or_concat front with rfl | ⟨init, last, rfl⟩
      · rfl
      · rw [List.concat_eq_append] at solid blanks
        rw [List.getLast?_concat] at solid
        have blank := blanks last (List.mem_append_right init (List.mem_singleton_self last))
        rw [solid last rfl] at blank
        cases blank
  | succ n ih =>
      have filled : front.dropWhile isBlank ≠ [] := by
        intro empty
        rw [words_eq_nil_iff.mpr empty] at size
        cases size
      rw [words_of_solid filled, List.length_cons, Nat.succ_inj] at size
      rw [Nat.add_comm, behind_add, behind_one_append filled blank]
      exact ih (last_of_suffix (behind_suffix 1 front) solid) size

/-! ## Places of words -/

def fromWord (place : Nat) (text : Text) : Text :=
  (behind place text).dropWhile isBlank

/-- The text from the start of the word `first` to the end of the word before `last`. -/
def wordRange (first last : Nat) (text : Text) : Text :=
  (fromWord first text).take ((fromWord first text).length - (behind last text).length)

theorem fromWord_suffix (n : Nat) (text : Text) : fromWord n text <:+ text :=
  (List.dropWhile_suffix _).trans (behind_suffix n text)

theorem fromWord_succ (n : Nat) (text : Text) : fromWord (n + 1) text = fromWord 1 (behind n text) := by
  rw [fromWord, behind_add, fromWord]

theorem words_fromWord (n : Nat) (text : Text) : words (fromWord n text) = (words text).drop n := by
  rw [fromWord, words_dropWhile, words_behind]

theorem behind_fromWord (m n : Nat) (text : Text) :
    behind (n + 1) (fromWord m text) = behind (m + (n + 1)) text := by
  rw [behind_add m, fromWord, behind, dropWhile_of_head head_dropWhile]
  rfl

theorem wordRange_append (less : m < n) (text : Text) :
    wordRange m n text ++ behind n text = fromWord m text := by
  obtain ⟨k, rfl⟩ := Nat.exists_eq_add_of_lt less
  have ending := behind_suffix (k + 1) (fromWord m text)
  rw [behind_fromWord, ← Nat.add_assoc] at ending
  obtain ⟨front, split⟩ := ending
  rw [wordRange, ← split, List.length_append, Nat.add_sub_cancel_right, List.take_left]

end TemplateTree.Text
