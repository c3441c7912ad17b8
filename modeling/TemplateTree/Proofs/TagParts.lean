import TemplateTree.Proofs.Dispatch

/-!
# The parts of a tag

A loop has variables before its first `in`, and a cache has digits before its key. `LoopParts` and
`CacheParts` say where these stand, and `readCache_eq` and `all_isWord_iff` what becomes of them.
-/

namespace TemplateTree.Text

variable {text front back rest part tag : Text} {c : Char}

theorem argument?_eq_some_iff {keyword argument : Text} : tag.argument? keyword = some argument ↔
    ∃ c rest, tag = keyword ++ c :: rest ∧ isBlank c = true ∧ rest ≠ [] ∧ argument = trim rest := by
  constructor
  · intro found
    unfold argument? at found
    split at found
    next c rest here =>
      split at found
      next both =>
        rw [Bool.and_eq_true, decide_eq_true_eq] at both
        exact ⟨c, rest, dropPrefix?_eq_some_iff.mp here, both.1, both.2, (Option.some.inj found).symm⟩
      · cases found
    · cases found
  · rintro ⟨c, rest, rfl, blank, filled, rfl⟩
    rw [argument?, dropPrefix?_append]
    simp [blank, filled]

/-! ## The variables of a loop -/

def StartsIn (text rest : Text) : Prop :=
  ∃ gap c, text = gap ++ (inWord ++ c :: rest) ∧ gap ≠ [] ∧ (∀ b ∈ gap, isBlank b = true) ∧
    isBlank c = true ∧ rest ≠ []

structure IsInCut (text part rest : Text) : Prop where
  joined : ∃ behind, text = part ++ behind ∧ StartsIn behind rest
  first : ∀ n < part.length, ∀ rest, ¬ StartsIn (text.drop n) rest

theorem StartsIn.head (starts : StartsIn text rest) : ∃ c behind, text = c :: behind ∧ isBlank c = true := by
  obtain ⟨gap, c, rfl, filled, blank, -⟩ := starts
  cases gap with
  | nil => exact absurd rfl filled
  | cons b gap => exact ⟨b, _, rfl, blank b List.mem_cons_self⟩

theorem startsIn_cons_iff {argument : Text} :
    (if isBlank c then argument? (text.dropWhile isBlank) inWord else none) = some argument ↔
      ∃ rest, StartsIn (c :: text) rest ∧ argument = rest.trim := by
  constructor
  · intro found
    split at found
    next blank =>
      obtain ⟨d, rest, here, blank', filled, rfl⟩ := argument?_eq_some_iff.mp found
      refine ⟨rest, ⟨c :: text.takeWhile isBlank, d, ?_, List.cons_ne_nil _ _, ?_, blank', filled⟩, rfl⟩
      · rw [← here, List.cons_append, List.takeWhile_append_dropWhile]
      · exact List.forall_mem_cons.mpr ⟨blank, fun b => List.mem_takeWhile_imp⟩
    · cases found
  · rintro ⟨rest, ⟨gap, d, joined, some, blank, blank', filled⟩, rfl⟩
    cases gap with
    | nil => exact absurd rfl some
    | cons b gap =>
        rw [List.cons_append] at joined
        obtain ⟨rfl, rfl⟩ := List.cons.inj joined
        obtain ⟨here, blanks⟩ := List.forall_mem_cons.mp blank
        have solid : ∀ x ∈ (inWord ++ d :: rest).head?, isBlank x = false := by
          rintro x ⟨⟩
          rfl
        rw [if_pos here, (span_append blanks solid).2]
        exact argument?_eq_some_iff.mpr ⟨d, rest, rfl, blank', filled, rfl⟩

theorem IsInCut.eq_nil (cut : IsInCut text part rest) {other : Text} (starts : StartsIn text other) :
    part = [] := by
  by_contra filled
  exact cut.first 0 (List.length_pos_iff.mpr filled) other starts

theorem isInCut_nil (starts : StartsIn text rest) : IsInCut text [] rest :=
  ⟨⟨text, rfl, starts⟩, fun n less => absurd less (Nat.not_lt_zero n)⟩

theorem isInCut_cons (missing : ∀ other, ¬ StartsIn (c :: text) other) :
    IsInCut (c :: text) part rest ↔ ∃ init, part = c :: init ∧ IsInCut text init rest := by
  constructor
  · rintro ⟨⟨behind, joined, starts⟩, first⟩
    cases part with
    | nil =>
        rw [List.nil_append] at joined
        exact absurd (joined ▸ starts) (missing rest)
    | cons d init =>
        obtain ⟨rfl, rfl⟩ := List.cons.inj joined
        exact ⟨init, rfl, ⟨behind, rfl, starts⟩, fun n less => first (n + 1) (Nat.succ_lt_succ less)⟩
  · rintro ⟨init, rfl, ⟨behind, rfl, starts⟩, first⟩
    refine ⟨⟨behind, rfl, starts⟩, fun n less => ?_⟩
    cases n with
    | zero => exact missing
    | succ n => exact first n (Nat.lt_of_succ_lt_succ less)

theorem cutAtIn?_eq_some_iff {before argument : Text} : cutAtIn? before text = some (part, argument) ↔
    ∃ init rest, part = before.reverse ++ init ∧ IsInCut text init rest ∧ argument = rest.trim := by
  induction text generalizing before with
  | nil =>
      rw [cutAtIn?]
      refine iff_of_false (by simp) ?_
      rintro ⟨init, rest, -, ⟨⟨behind, joined, starts⟩, -⟩, -⟩
      obtain ⟨c, behind, rfl, -⟩ := starts.head
      cases (List.append_eq_nil_iff.mp joined.symm).2
  | cons c text ih =>
      rw [cutAtIn?]
      cases here : if isBlank c then argument? (text.dropWhile isBlank) inWord else none with
      | some found =>
          obtain ⟨other, starts, -⟩ := startsIn_cons_iff.mp here
          constructor
          · intro same
            obtain ⟨rfl, rfl⟩ := Prod.mk.inj (Option.some.inj same)
            obtain ⟨rest, starts, rfl⟩ := startsIn_cons_iff.mp here
            exact ⟨[], rest, (List.append_nil _).symm, isInCut_nil starts, rfl⟩
          · rintro ⟨init, rest, rfl, cut, rfl⟩
            obtain rfl := cut.eq_nil starts
            obtain ⟨behind, rfl, starts⟩ := cut.joined
            have same := startsIn_cons_iff.mpr ⟨rest, starts, rfl⟩
            rw [here] at same
            rw [Option.some.inj same, List.append_nil]
      | none =>
          -- no `in` starts here, so the cut stands behind this character
          have missing (other : Text) (starts : StartsIn (c :: text) other) : False := by
            have found := startsIn_cons_iff.mpr ⟨other, starts, rfl⟩
            rw [here] at found
            cases found
          dsimp only
          rw [ih]
          constructor
          · rintro ⟨init, rest, rfl, cut, rfl⟩
            exact ⟨c :: init, rest, by simp, (isInCut_cons missing).mpr ⟨init, rfl, cut⟩, rfl⟩
          · rintro ⟨init, rest, rfl, cut, rfl⟩
            obtain ⟨inner, rfl, behind⟩ := (isInCut_cons missing).mp cut
            exact ⟨inner, rest, by simp, behind, rfl⟩

theorem exists_isInCut (front : Text) (starts : StartsIn back rest) :
    ∃ part rest, IsInCut (front ++ back) part rest ∧ part <+: front := by
  induction front with
  | nil => exact ⟨[], rest, isInCut_nil starts, List.nil_prefix⟩
  | cons c front ih =>
      by_cases here : ∃ other, StartsIn (c :: front ++ back) other
      · obtain ⟨other, starts⟩ := here
        exact ⟨[], other, isInCut_nil starts, List.nil_prefix⟩
      · obtain ⟨part, other, cut, shorter⟩ := ih
        have missing : ∀ other, ¬ StartsIn (c :: front ++ back) other := not_exists.mp here
        exact ⟨c :: part, other, (isInCut_cons missing).mpr ⟨part, rfl, cut⟩,
          List.prefix_cons_inj c |>.mpr shorter⟩

/-- The variables of a loop, as they are written behind its keyword: what stands before the first `in`
between blanks that is not the first word. Behind that `in` stands `rest`. -/
def LoopParts (tag part rest : Text) : Prop :=
  ∃ gap body, tag = Kind.loop.name ++ (gap ++ body) ∧ gap ≠ [] ∧ (∀ c ∈ gap, isBlank c = true) ∧
    (∀ c ∈ body.head?, isBlank c = false) ∧ IsInCut body part rest

theorem LoopParts.loopParts?_eq (parts : LoopParts tag part rest) :
    Content.loopParts? tag = some (part, rest.trim) := by
  obtain ⟨gap, body, rfl, some, blank, solid, cut⟩ := parts
  obtain ⟨gapEq, bodyEq⟩ := span_append blank solid
  have found : cutAtIn? [] body = Option.some (part, rest.trim) :=
    cutAtIn?_eq_some_iff.mpr ⟨part, rest, rfl, cut, rfl⟩
  rw [Content.loopParts?, dropPrefix?_append]
  dsimp only
  rw [gapEq, bodyEq, if_neg some, found, Option.some_or]

theorem mem_of_mem_pieces {isCut : Char → Bool} {piece : Text} (isPiece : piece ∈ pieces isCut text)
    (member : c ∈ piece) : c ∈ text ∧ isCut c = false := by
  induction text generalizing piece with
  | nil =>
      obtain rfl := List.mem_singleton.mp isPiece
      cases member
  | cons d text ih =>
      rw [pieces_cons] at isPiece
      cases cut : isCut d with
      | true =>
          rw [cut, if_pos rfl, List.mem_cons] at isPiece
          rcases isPiece with rfl | isPiece
          · cases member
          · exact (ih isPiece member).imp_left (List.mem_cons_of_mem d)
      | false =>
          rw [cut, if_neg Bool.false_ne_true] at isPiece
          cases parts : pieces isCut text with
          | nil => exact absurd parts (pieces_ne_nil isCut text)
          | cons first rest =>
              rw [parts] at isPiece ih
              rcases List.mem_cons.mp isPiece with rfl | isPiece
              · rcases List.mem_cons.mp member with rfl | member
                · exact ⟨List.mem_cons_self, cut⟩
                · exact (ih List.mem_cons_self member).imp_left (List.mem_cons_of_mem d)
              · exact (ih (List.mem_cons_of_mem first isPiece) member).imp_left (List.mem_cons_of_mem d)

theorem mem_listed {target : Text} : target ∈ listed text ↔
    target ≠ [] ∧ ∃ item ∈ pieces (· = ',') text, item.trim = target := by
  rw [listed, List.mem_filter, List.mem_map, decide_eq_true_eq, and_comm]

def IsTargetList (text : Text) : Prop :=
  ∃ c behind, text = c :: behind ∧ isWordChar c = true ∧ ∀ d ∈ behind, TagRule.isTargetChar d = true

theorem IsTargetList.isWordChar (targets : IsTargetList text) (member : c ∈ text) (solid : isBlank c = false)
    (noComma : c ≠ ',') : isWordChar c = true := by
  obtain ⟨first, behind, rfl, word, others⟩ := targets
  rcases List.mem_cons.mp member with rfl | member
  · exact word
  · have plain := others c member
    simp only [TagRule.isTargetChar, Bool.or_eq_true, decide_eq_true_eq] at plain
    rcases plain with ((plain | rfl) | rfl) | rfl
    · exact isWordChar_of_isAlphanum plain
    · cases solid
    · decide
    · exact absurd rfl noComma

theorem IsTargetList.listed_ne_nil (targets : IsTargetList text) : listed text ≠ [] := by
  obtain ⟨c, behind, rfl, word, -⟩ := targets
  have noComma : decide (c = ',') = false := by
    rw [decide_eq_false_iff_not]
    rintro rfl
    revert word
    decide
  have first := head_pieces (· = ',') (c :: behind)
  rw [List.takeWhile_cons, noComma, Bool.not_false, if_pos rfl] at first
  apply List.ne_nil_of_mem
  refine mem_listed.mpr ⟨?_, _, List.mem_of_mem_head? first, rfl⟩
  exact (proper_trim List.mem_cons_self (isBlank_of_isWordChar word)).1

/-- Of the variables that a rule lets pass, a loop refuses exactly those with a blank inside. -/
theorem IsTargetList.all_isWord_iff (targets : IsTargetList text) :
    (listed text).all isWord = true ↔
      ∀ item ∈ pieces (· = ',') text, ∀ c ∈ item.trim, isBlank c = false := by
  rw [List.all_eq_true]
  constructor
  · intro words item isItem c member
    have listed := mem_listed.mpr ⟨List.ne_nil_of_mem member, item, isItem, rfl⟩
    exact isBlank_of_isWordChar ((isWord_iff.mp (words _ listed)).2 c member)
  · intro solid target member
    obtain ⟨filled, item, isItem, rfl⟩ := mem_listed.mp member
    refine isWord_iff.mpr ⟨filled, fun c member => ?_⟩
    obtain ⟨inText, noComma⟩ := mem_of_mem_pieces isItem (mem_of_mem_trim member)
    exact targets.isWordChar inText (solid item isItem c member) (by simpa using noComma)

def SpacedTarget (tag : Text) : Prop :=
  ∃ part rest, LoopParts tag part rest ∧ ∃ item ∈ pieces (· = ',') part, ∃ c ∈ item.trim, isBlank c = true

/-! ## The digits of a cache -/

def CacheParts (tag digits rest : Text) : Prop :=
  ∃ gap c, tag = Kind.cache.name ++ (gap ++ (digits ++ c :: rest)) ∧ gap ≠ [] ∧
    (∀ b ∈ gap, isBlank b = true) ∧ digits ≠ [] ∧ (∀ d ∈ digits, isDigit d = true) ∧
    isBlank c = true ∧ rest ≠ []

theorem CacheParts.span {digits : Text} (parts : CacheParts tag digits rest) :
    ∃ gap c, tag = Kind.cache.name ++ (gap ++ (digits ++ c :: rest)) ∧ gap ≠ [] ∧ isBlank c = true ∧
      (gap ++ (digits ++ c :: rest)).dropWhile isBlank = digits ++ c :: rest ∧
      (digits ++ c :: rest).takeWhile isDigit = digits := by
  obtain ⟨gap, c, rfl, filled, blank, some, members, blank', -⟩ := parts
  have start : ∀ d ∈ (digits ++ c :: rest).head?, isBlank d = false := by
    intro d first
    rw [List.head?_append_of_ne_nil _ some] at first
    cases here : isBlank d with
    | false => rfl
    | true =>
        have digit := members d (List.mem_of_mem_head? first)
        rw [isDigit_of_isBlank here] at digit
        cases digit
  have ending : ∀ d ∈ (c :: rest).head?, isDigit d = false := by
    rintro d ⟨⟩
    exact isDigit_of_isBlank blank'
  exact ⟨gap, c, rfl, filled, blank', (span_append blank start).2, (span_append members ending).1⟩

theorem CacheParts.unique {digits digits' rest' : Text} (parts : CacheParts tag digits rest)
    (parts' : CacheParts tag digits' rest') : digits = digits' := by
  obtain ⟨gap, c, same, -, -, body, row⟩ := parts.span
  obtain ⟨gap', c', rfl, -, -, body', row'⟩ := parts'.span
  rw [← List.append_cancel_left same, body'] at body
  rw [← row, ← row', body]

theorem CacheParts.readCache_eq {digits : Text} (parts : CacheParts tag digits rest) :
    Content.readCache tag = if digits.length ≤ TreeError.digitLimit
      then .ok (.cache (digitsValue digits) rest.trim) else .error (.numberTooLong digits.length) := by
  obtain ⟨gap, c, rfl, some, blank, body, row⟩ := parts.span
  obtain ⟨-, -, -, -, -, some', -, -, filled⟩ := parts
  have key : argument? (digits ++ c :: rest) digits = Option.some rest.trim :=
    argument?_eq_some_iff.mpr ⟨c, rest, rfl, blank, filled, rfl⟩
  have shorter : 0 < gap.length := List.length_pos_iff.mpr some
  rw [Content.readCache, dropPrefix?_append]
  simp only [body, row, key]
  simp [shorter, some']

end TemplateTree.Text
