import Mathlib.Algebra.Ring.Int.Defs
import Mathlib.Data.List.Induction
import Mathlib.Data.List.Infix

/-!
# Bracket words

Brackets are matched by depth alone: a bracket closes the latest opening one such that the word
between them is balanced. `exists_balanced_of_not_nested` finds the first closing bracket in excess,
and `OpenAt` tells how far out an opening bracket stands that nothing has closed yet.
-/

namespace TemplateTree

inductive Bracket where
  | opening
  | closing
  | plain
deriving DecidableEq

namespace Bracket

def weight : Bracket → Int
  | opening => 1
  | closing => -1
  | plain => 0

def depth (word : List Bracket) : Int := (word.map weight).sum

def Nested (word : List Bracket) : Prop := ∀ front, front <+: word → 0 ≤ depth front

instance (word : List Bracket) : Decidable (Nested word) :=
  decidable_of_iff (∀ front ∈ word.inits, 0 ≤ depth front) (by simp only [List.mem_inits, Nested])

def Balanced (word : List Bracket) : Prop := Nested word ∧ depth word = 0

/-- The bracket at position `first` opens, and all that is opened between it and position `last` is
closed again: what stands there lies directly inside the bracket, or closes it. -/
def Encloses (word : List Bracket) (first last : Nat) : Prop :=
  word[first]? = some .opening ∧ first < last ∧ Balanced ((word.take last).drop (first + 1))

def Matched (word : List Bracket) (first last : Nat) : Prop :=
  Encloses word first last ∧ word[last]? = some .closing

def Unmatched (word : List Bracket) (first : Nat) : Prop :=
  word[first]? = some .opening ∧ ∀ last, ¬ Matched word first last

variable {word front back : List Bracket} {bracket : Bracket} {first last : Nat}

@[simp] theorem depth_nil : depth [] = 0 := rfl

@[simp] theorem depth_cons : depth (bracket :: word) = bracket.weight + depth word := by
  simp [depth]

@[simp] theorem depth_append : depth (front ++ back) = depth front + depth back := by
  simp [depth]

theorem depth_eq_count (word : List Bracket) :
    depth word + word.count .closing = word.count .opening := by
  induction word with
  | nil => rfl
  | cons bracket word ih =>
      cases bracket with
      | opening => simp [weight]; omega
      | closing => simp [weight]; omega
      | plain => simpa [weight] using ih

theorem nested_nil : Nested [] := by
  intro front isPrefix
  obtain rfl := List.prefix_nil.mp isPrefix
  exact Int.le_refl 0

theorem Nested.depth_nonneg (nested : Nested word) : 0 ≤ depth word :=
  nested word (List.prefix_refl word)

theorem Nested.left (nested : Nested (front ++ back)) : Nested front :=
  fun start isPrefix => nested start (isPrefix.trans (List.prefix_append front back))

theorem nested_concat : Nested (word ++ [bracket]) ↔
    Nested word ∧ 0 ≤ depth word + bracket.weight := by
  constructor
  · intro nested
    exact ⟨nested.left, by simpa using nested.depth_nonneg⟩
  · rintro ⟨nested, high⟩ front isPrefix
    rcases List.prefix_concat_iff.mp isPrefix with rfl | isPrefix
    · simpa using high
    · exact nested front isPrefix

theorem Nested.append (first : Nested front) (second : Nested back) : Nested (front ++ back) := by
  induction back using List.reverseRecOn with
  | nil => simpa using first
  | append_singleton back bracket ih =>
      obtain ⟨second, high⟩ := nested_concat.mp second
      have low := first.depth_nonneg
      rw [← List.append_assoc]
      refine nested_concat.mpr ⟨ih second, ?_⟩
      rw [depth_append]
      omega

theorem balanced_nil : Balanced [] := ⟨nested_nil, rfl⟩

theorem Balanced.append (first : Balanced front) (second : Balanced back) :
    Balanced (front ++ back) :=
  ⟨first.1.append second.1, by simp [first.2, second.2]⟩

theorem Balanced.plain (balanced : Balanced word) : Balanced (.plain :: word) := by
  have alone : Balanced [.plain] := ⟨nested_concat.mpr ⟨nested_nil, by decide⟩, rfl⟩
  exact alone.append balanced

theorem Balanced.wrap (balanced : Balanced word) : Balanced (.opening :: (word ++ [.closing])) := by
  have opened : Nested [.opening] := nested_concat.mpr ⟨nested_nil, by decide⟩
  have inner : Nested (.opening :: word) := opened.append balanced.1
  refine ⟨nested_concat.mpr ⟨inner, ?_⟩, ?_⟩ <;> simp [balanced.2, weight]

theorem Balanced.not_nested_closing (balanced : Balanced front) :
    ¬ Nested (front ++ .closing :: back) := by
  intro nested
  rw [← List.singleton_append, ← List.append_assoc] at nested
  have high := (nested_concat.mp nested.left).2
  simp [balanced.2, weight] at high

/-- A word that closes too much starts with a balanced word and a closing bracket. -/
theorem exists_balanced_of_not_nested (excess : ¬ Nested word) :
    ∃ front back, word = front ++ .closing :: back ∧ Balanced front := by
  induction word using List.reverseRecOn with
  | nil => exact (excess nested_nil).elim
  | append_singleton word bracket ih =>
      by_cases nested : Nested word
      · have low := nested.depth_nonneg
        have negative : depth word + bracket.weight < 0 := by
          by_contra high
          exact excess (nested_concat.mpr ⟨nested, by omega⟩)
        cases bracket with
        | opening => simp only [weight] at negative; omega
        | plain => simp only [weight] at negative; omega
        | closing =>
            simp only [weight] at negative
            exact ⟨word, [], rfl, nested, by omega⟩
      · obtain ⟨front, back, rfl, balanced⟩ := ih nested
        exact ⟨front, back ++ [bracket], by simp, balanced⟩

/-! ## Matching -/

theorem encloses_append (short : last ≤ front.length) :
    Encloses (front ++ back) first last ↔ Encloses front first last := by
  unfold Encloses
  rw [List.take_append_of_le_length short]
  constructor
  · rintro ⟨opens, before, balanced⟩
    rw [List.getElem?_append_left (by omega)] at opens
    exact ⟨opens, before, balanced⟩
  · rintro ⟨opens, before, balanced⟩
    rw [← List.getElem?_append_left (by omega)] at opens
    exact ⟨opens, before, balanced⟩

theorem Matched.last_lt (matched : Matched word first last) : last < word.length :=
  (List.getElem?_eq_some_iff.mp matched.2).1

theorem Matched.drop_eq (matched : Matched word first last) :
    word.drop (first + 1) =
      (word.take last).drop (first + 1) ++ .closing :: word.drop (last + 1) := by
  obtain ⟨⟨-, before, -⟩, closes⟩ := matched
  obtain ⟨inside, closes⟩ := List.getElem?_eq_some_iff.mp closes
  conv_lhs => rw [← List.take_append_drop last word]
  rw [List.drop_append_of_le_length (by rw [List.length_take]; omega),
    List.drop_eq_getElem_cons inside, closes]

theorem Matched.not_nested (matched : Matched word first last) : ¬ Nested (word.drop (first + 1)) := by
  rw [matched.drop_eq]
  exact matched.1.2.2.not_nested_closing

theorem matched_of_drop (opens : word[first]? = some .opening)
    (split : word.drop (first + 1) = front ++ .closing :: back) (balanced : Balanced front) :
    Matched word first (first + 1 + front.length) := by
  have inside : (word.take (first + 1 + front.length)).drop (first + 1) = front := by
    rw [List.drop_take, Nat.add_sub_cancel_left, split, List.take_left]
  refine ⟨⟨opens, by omega, by rwa [inside]⟩, ?_⟩
  rw [← List.getElem?_drop, split, List.getElem?_append_right (Nat.le_refl _), Nat.sub_self]
  rfl

theorem unmatched_iff :
    Unmatched word first ↔ word[first]? = some .opening ∧ Nested (word.drop (first + 1)) := by
  constructor
  · rintro ⟨opens, alone⟩
    refine ⟨opens, ?_⟩
    by_contra excess
    obtain ⟨front, back, split, balanced⟩ := exists_balanced_of_not_nested excess
    exact alone _ (matched_of_drop opens split balanced)
  · rintro ⟨opens, nested⟩
    exact ⟨opens, fun last matched => matched.not_nested nested⟩

theorem matched_unique {other : Nat} (one : Matched word first last)
    (two : Matched word first other) : last = other := by
  have ordered {low high : Nat} (one : Matched word first low) (two : Matched word first high) :
      ¬ low < high := by
    intro less
    have cut : (word.take high).drop (first + 1) = (word.take low).drop (first + 1) ++
        .closing :: ((word.take high).drop (low + 1)) := by
      have shorter : Matched (word.take high) first low := by
        refine ⟨?_, by rw [List.getElem?_take_of_lt less]; exact one.2⟩
        have inside := one.last_lt
        rw [← List.take_append_drop high word] at one
        exact (encloses_append (by rw [List.length_take]; omega)).mp one.1
      rw [shorter.drop_eq, List.take_take, Nat.min_eq_left (Nat.le_of_lt less)]
    have nested := two.1.2.2.1
    rw [cut] at nested
    exact one.1.2.2.not_nested_closing nested
  have := ordered one two
  have := ordered two one
  omega

/-! ## Brackets that are open at the end of a word -/

/-- The bracket at position `first` is open at the end of the word, with `level` others opened
inside it and still open. -/
def OpenAt (word : List Bracket) (level first : Nat) : Prop :=
  word[first]? = some .opening ∧ Nested (word.drop (first + 1)) ∧
    depth (word.drop (first + 1)) = level

variable {level : Nat}

theorem openAt_concat_opening : OpenAt (word ++ [opening]) 0 word.length := by
  have behind : (word ++ [opening]).drop (word.length + 1) = [] := by simp
  refine ⟨by simp, ?_, ?_⟩
  · rw [behind]
    exact nested_nil
  · rw [behind]
    rfl

theorem OpenAt.first_lt (isOpen : OpenAt word level first) : first < word.length :=
  (List.getElem?_eq_some_iff.mp isOpen.1).1

theorem OpenAt.concat {after : Nat} (isOpen : OpenAt word level first)
    (same : (after : Int) = level + bracket.weight) : OpenAt (word ++ [bracket]) after first := by
  have inside := isOpen.first_lt
  have behind : (word ++ [bracket]).drop (first + 1) = word.drop (first + 1) ++ [bracket] :=
    List.drop_append_of_le_length inside
  refine ⟨by rw [List.getElem?_append_left inside]; exact isOpen.1, ?_, ?_⟩
  · rw [behind]
    refine nested_concat.mpr ⟨isOpen.2.1, ?_⟩
    rw [isOpen.2.2]
    omega
  · rw [behind, depth_append, isOpen.2.2, same]
    simp

theorem OpenAt.encloses (isOpen : OpenAt word 0 first) (rest : List Bracket) :
    Encloses (word ++ rest) first word.length := by
  refine (encloses_append (Nat.le_refl _)).mpr ⟨isOpen.1, isOpen.first_lt, ?_⟩
  rw [List.take_length]
  exact ⟨isOpen.2.1, isOpen.2.2⟩

theorem Encloses.openAt (encloses : Encloses (front ++ back) first front.length) :
    OpenAt front 0 first := by
  obtain ⟨opens, -, balanced⟩ := (encloses_append (Nat.le_refl _)).mp encloses
  rw [List.take_length] at balanced
  exact ⟨opens, balanced.1, balanced.2⟩

theorem OpenAt.isLast {later : Nat} (isOpen : OpenAt word 0 first) (less : first < later) :
    ¬ Unmatched word later := by
  intro alone
  obtain ⟨opens, nested⟩ := unmatched_iff.mp alone
  have inside : later < word.length := (List.getElem?_eq_some_iff.mp opens).1
  have split : word.drop (first + 1) =
      (word.drop (first + 1)).take (later - (first + 1)) ++ .opening :: word.drop (later + 1) := by
    conv_lhs => rw [← List.take_append_drop (later - (first + 1)) (word.drop (first + 1))]
    rw [List.drop_drop, Nat.add_sub_cancel' less, List.drop_eq_getElem_cons inside,
      (List.getElem?_eq_some_iff.mp opens).2]
  have before : 0 ≤ depth ((word.drop (first + 1)).take (later - (first + 1))) :=
    isOpen.2.1 _ (List.take_prefix _ _)
  have behind := nested.depth_nonneg
  have level := isOpen.2.2
  rw [split, depth_append, depth_cons] at level
  simp only [weight] at level
  omega

theorem OpenAt.unique {other : Nat} (one : OpenAt word 0 first) (two : OpenAt word 0 other) :
    first = other := by
  have ordered {low high : Nat} (one : OpenAt word 0 low) (two : OpenAt word 0 high) :
      ¬ low < high :=
    fun less => one.isLast less (unmatched_iff.mpr ⟨two.1, two.2.1⟩)
  have := ordered one two
  have := ordered two one
  omega

end Bracket

end TemplateTree
