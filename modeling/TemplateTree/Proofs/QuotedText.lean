import Mathlib.Algebra.GroupWithZero.Nat
import TemplateTree.Node
import TemplateTree.Proofs.Written

/-!
# Reading quoted texts

A quoted text ends at its closing quote, whatever stands behind it, and says which text it quotes
(`quoted_append_inj`). The same holds of quoted lists. Neither has a line break in it.
-/

namespace TemplateTree
namespace Text

variable {quote c d : Char} {text other rest rest' : Text} {texts others : List Text}

/-! ## Hexadecimal digits -/

theorem length_hexDigits (width n : Nat) : (hexDigits width n).length = width := by
  induction width generalizing n with
  | zero => rfl
  | succ width ih => rw [hexDigits, List.length_append, ih, List.length_singleton]

theorem mem_hexDigits {width n : Nat} (member : c ∈ hexDigits width n) :
    ∃ digit < 16, c = Nat.digitChar digit := by
  induction width generalizing n with
  | zero => cases member
  | succ width ih =>
      rcases List.mem_append.mp member with member | member
      · exact ih member
      · exact ⟨n % 16, Nat.mod_lt n (by decide), List.mem_singleton.mp member⟩

theorem baseDigit?_digitChar : ∀ digit < 16, baseDigit? 16 (Nat.digitChar digit) = some digit := by
  decide

theorem baseValue?_hexDigits {width n : Nat} (fits : n < 16 ^ width) :
    baseValue? 16 (hexDigits width n) = some n := by
  induction width generalizing n with
  | zero =>
      obtain rfl : n = 0 := by simpa using fits
      rfl
  | succ width ih =>
      have lead : n / 16 < 16 ^ width := by
        rw [Nat.pow_succ] at fits
        exact Nat.div_lt_of_lt_mul (by rwa [Nat.mul_comm])
      have last := baseDigit?_digitChar (n % 16) (Nat.mod_lt n (by decide))
      have front := ih lead
      rw [baseValue?] at front ⊢
      rw [hexDigits, List.foldlM_append, front]
      simp [last, Nat.div_add_mod]

/-! ## Escaped characters -/

def readCode (width : Nat) (text : Text) : Option (Char × Text) :=
  (baseValue? 16 (text.take width)).map fun code => (Char.ofNat code, text.drop width)

def readEscaped : Text → Option (Char × Text)
  | [] => none
  | '\\' :: 'n' :: rest => some ('\n', rest)
  | '\\' :: 'r' :: rest => some ('\r', rest)
  | '\\' :: 't' :: rest => some ('\t', rest)
  | '\\' :: 'x' :: rest => readCode 2 rest
  | '\\' :: 'u' :: rest => readCode 4 rest
  | '\\' :: 'U' :: rest => readCode 8 rest
  | '\\' :: c :: rest => some (c, rest)
  | c :: rest => some (c, rest)

def IsQuote (quote : Char) : Prop := quote = '\'' ∨ quote = '"'

theorem isQuote_quoteFor (text : Text) : IsQuote (quoteFor text) := by
  unfold quoteFor
  split
  · exact .inr rfl
  · exact .inl rfl

theorem readCode_hexDigits {width : Nat} (fits : c.toNat < 16 ^ width) (rest : Text) :
    readCode width (hexDigits width c.toNat ++ rest) = some (c, rest) := by
  have length := length_hexDigits width c.toNat
  rw [readCode, List.take_left' length, List.drop_left' length, baseValue?_hexDigits fits,
    Option.map_some, Char.ofNat_toNat]

theorem readEscaped_of_ne (plain : c ≠ '\\') (rest : Text) : readEscaped (c :: rest) = some (c, rest) := by
  unfold readEscaped
  split <;> grind

theorem readEscaped_escaped (isQuote : IsQuote quote) (c : Char) (rest : Text) :
    readEscaped (escaped quote c ++ rest) = some (c, rest) := by
  unfold escaped
  split
  next marked =>
    have plain : c = '\'' ∨ c = '"' ∨ c = '\\' := by
      rcases marked with rfl | rfl
      · exact isQuote.elim .inl (.inr ∘ .inl)
      · exact .inr (.inr rfl)
    rcases plain with rfl | rfl | rfl <;> rfl
  next unmarked =>
    split
    next same => rw [same]; rfl
    split
    next same => rw [same]; rfl
    split
    next same => rw [same]; rfl
    split
    · exact readEscaped_of_ne (fun same => unmarked (.inr same)) rest
    split
    next fits => exact readCode_hexDigits fits rest
    split
    next fits => exact readCode_hexDigits fits rest
    · have bound : c.toNat < 0x110000 := by
        rcases c.valid with low | ⟨-, high⟩
        · exact Nat.lt_trans low (by decide)
        · exact high
      exact readCode_hexDigits (Nat.lt_trans bound (by decide)) rest

theorem escaped_append_inj (isQuote : IsQuote quote)
    (same : escaped quote c ++ rest = escaped quote d ++ rest') : c = d ∧ rest = rest' := by
  have read := readEscaped_escaped isQuote c rest
  rw [same, readEscaped_escaped isQuote] at read
  obtain ⟨rfl, rfl⟩ := Prod.mk.inj (Option.some.inj read)
  exact ⟨rfl, rfl⟩

theorem head_escaped (isQuote : IsQuote quote) (c : Char) : ∃ first behind,
    escaped quote c = first :: behind ∧ first ≠ quote := by
  have other : '\\' ≠ quote := by rcases isQuote with rfl | rfl <;> decide
  unfold escaped
  split
  · exact ⟨_, _, rfl, other⟩
  next unmarked =>
    repeat' split
    all_goals first
      | exact ⟨_, _, rfl, other⟩
      | exact ⟨c, [], rfl, fun same => unmarked (.inl same)⟩

/-! ## Quoted texts -/

theorem flatMap_escaped_inj (isQuote : IsQuote quote)
    (same : text.flatMap (escaped quote) ++ quote :: rest =
      other.flatMap (escaped quote) ++ quote :: rest') : text = other ∧ rest = rest' := by
  induction text generalizing other with
  | nil =>
      cases other with
      | nil => exact ⟨rfl, (List.cons.inj same).2⟩
      | cons d other =>
          obtain ⟨first, behind, written, different⟩ := head_escaped isQuote d
          rw [List.flatMap_cons, written] at same
          exact absurd (List.cons.inj same).1.symm different
  | cons c text ih =>
      cases other with
      | nil =>
          obtain ⟨first, behind, written, different⟩ := head_escaped isQuote c
          rw [List.flatMap_cons, written] at same
          exact absurd (List.cons.inj same).1 different
      | cons d other =>
          rw [List.flatMap_cons, List.flatMap_cons, List.append_assoc, List.append_assoc] at same
          obtain ⟨rfl, behind⟩ := escaped_append_inj isQuote same
          obtain ⟨rfl, rests⟩ := ih behind
          exact ⟨rfl, rests⟩

theorem quoted_append_inj (same : text.quoted ++ rest = other.quoted ++ rest') :
    text = other ∧ rest = rest' := by
  simp only [quoted, List.cons_append, List.append_assoc, List.cons.injEq] at same
  obtain ⟨quotes, behind⟩ := same
  rw [← quotes] at behind
  exact flatMap_escaped_inj (isQuote_quoteFor text) behind

theorem quoted_injective (same : text.quoted = other.quoted) : text = other :=
  (quoted_append_inj (congrArg (· ++ []) same)).1

theorem flatMap_quoted_inj
    (same : texts.flatMap ([',', ' '] ++ quoted ·) ++ ']' :: rest =
      others.flatMap ([',', ' '] ++ quoted ·) ++ ']' :: rest') : texts = others ∧ rest = rest' := by
  induction texts generalizing others with
  | nil =>
      cases others with
      | nil => exact ⟨rfl, (List.cons.inj same).2⟩
      | cons other others => cases (List.cons.inj same).1
  | cons text texts ih =>
      cases others with
      | nil => cases (List.cons.inj same).1
      | cons other others =>
          simp only [List.flatMap_cons, List.append_assoc, List.append_cancel_left_eq] at same
          obtain ⟨rfl, behind⟩ := quoted_append_inj same
          obtain ⟨rfl, rests⟩ := ih behind
          exact ⟨rfl, rests⟩

theorem quotedList_append_inj (same : quotedList texts ++ rest = quotedList others ++ rest') :
    texts = others ∧ rest = rest' := by
  have bracket (text : Text) : ∃ behind, text.quoted = quoteFor text :: behind ∧ quoteFor text ≠ ']' :=
    ⟨_, rfl, by rcases isQuote_quoteFor text with same | same <;> rw [same] <;> decide⟩
  simp only [quotedList, List.cons_append, List.append_assoc, List.cons.injEq, true_and] at same
  cases texts with
  | nil =>
      cases others with
      | nil => exact ⟨rfl, (List.cons.inj same).2⟩
      | cons other others =>
          obtain ⟨behind, written, different⟩ := bracket other
          rw [List.map_cons, joined_cons, written] at same
          exact absurd (List.cons.inj same).1.symm different
  | cons text texts =>
      cases others with
      | nil =>
          obtain ⟨behind, written, different⟩ := bracket text
          rw [List.map_cons, joined_cons, written] at same
          exact absurd (List.cons.inj same).1 different
      | cons other others =>
          simp only [List.map_cons, joined_cons, List.append_assoc] at same
          obtain ⟨rfl, behind⟩ := quoted_append_inj same
          rw [List.flatMap_map, List.flatMap_map] at behind
          obtain ⟨rfl, rests⟩ := flatMap_quoted_inj behind
          exact ⟨rfl, rests⟩

/-! ## Line breaks -/

theorem notMem_hexDigits (width n : Nat) : '\n' ∉ hexDigits width n := by
  intro member
  obtain ⟨digit, bound, same⟩ := mem_hexDigits member
  have other : ∀ digit < 16, '\n' ≠ Nat.digitChar digit := by decide
  exact other digit bound same

theorem notMem_escaped (isQuote : IsQuote quote) (c : Char) : '\n' ∉ escaped quote c := by
  unfold escaped
  split
  next marked =>
    have other : c ≠ '\n' := by
      rintro rfl
      rcases marked with rfl | same
      · rcases isQuote with same | same <;> cases same
      · cases same
    simp [other.symm]
  split
  · decide
  next other =>
    repeat' split
    all_goals simp [notMem_hexDigits, Ne.symm other]

theorem notMem_quoted (text : Text) : '\n' ∉ text.quoted := by
  have isQuote := isQuote_quoteFor text
  have other : '\n' ≠ quoteFor text := by rcases isQuote with same | same <;> rw [same] <;> decide
  simp [quoted, other, notMem_escaped isQuote]

theorem notMem_joined {mark : Text} (unbroken : '\n' ∉ mark) (all : ∀ text ∈ texts, '\n' ∉ text) :
    '\n' ∉ joined mark texts := by
  cases texts with
  | nil => exact List.not_mem_nil
  | cons first texts =>
      obtain ⟨here, behind⟩ := List.forall_mem_cons.mp all
      rw [joined_cons, List.mem_append, List.mem_flatMap]
      rintro (member | ⟨text, member, broken⟩)
      · exact here member
      · exact (List.mem_append.mp broken).elim unbroken (behind text member)

end Text
end TemplateTree
