import TemplateTree.Text.Basic

/-!
# First occurrences of a mark

`cutFrom?_eq_some_iff` says what the cuts of a text find: the first occurrence of the mark, unless a
character that is not allowed stands before it. `cut?_eq_none_iff` says when there is nothing to find.
-/

namespace TemplateTree.Text

theorem dropPrefix?_eq_none_iff {text start : Text} :
    text.dropPrefix? start = none ↔ ¬ start <+: text := by
  rw [Option.eq_none_iff_forall_ne_some]
  constructor
  · rintro missing ⟨rest, rfl⟩
    exact missing rest (dropPrefix?_append start rest)
  · intro missing rest found
    exact missing ⟨rest, (dropPrefix?_eq_some_iff.mp found).symm⟩

/-- A text cut at the first occurrence of a mark, behind allowed characters only. -/
structure IsFirstCut (allowed : Char → Bool) (mark text front after : Text) : Prop where
  joined : text = front ++ (mark ++ after)
  passed : ∀ c ∈ front, allowed c = true
  first : ∀ n < front.length, ¬ mark <+: text.drop n

theorem isFirstCut_nil {allowed : Char → Bool} {mark text after : Text} :
    IsFirstCut allowed mark text [] after ↔ text = mark ++ after :=
  ⟨fun cut => by simpa using cut.joined, fun joined => ⟨by simpa using joined, by simp, by simp⟩⟩

theorem isFirstCut_cons {allowed : Char → Bool} {mark text front after : Text} {c d : Char} :
    IsFirstCut allowed mark (c :: text) (d :: front) after ↔
      c = d ∧ allowed c = true ∧ ¬ mark <+: c :: text ∧
        IsFirstCut allowed mark text front after := by
  constructor
  · rintro ⟨joined, passed, first⟩
    obtain ⟨rfl, behind⟩ := List.cons.inj joined
    refine ⟨rfl, passed c List.mem_cons_self, first 0 (by simp), behind, ?_, ?_⟩
    · exact fun x member => passed x (List.mem_cons_of_mem _ member)
    · intro n short
      exact first (n + 1) (Nat.succ_lt_succ short)
  · rintro ⟨rfl, allowedHere, missing, joined, passed, first⟩
    refine ⟨by rw [joined, List.cons_append], ?_, ?_⟩
    · intro x member
      rcases List.mem_cons.mp member with rfl | member
      · exact allowedHere
      · exact passed x member
    · intro n short
      cases n with
      | zero => exact missing
      | succ n => exact first n (Nat.lt_of_succ_lt_succ short)

theorem IsFirstCut.eq_nil {allowed : Char → Bool} {mark text front after : Text}
    (cut : IsFirstCut allowed mark text front after) (here : mark <+: text) : front = [] := by
  apply Classical.byContradiction
  intro nonempty
  exact cut.first 0 (List.length_pos_iff.mpr nonempty) here

theorem cutFrom?_eq_some_iff {allowed : Char → Bool} {mark before text front after : Text} :
    cutFrom? allowed mark before text = some (front, after) ↔
      ∃ passed, front = before.reverse ++ passed ∧ IsFirstCut allowed mark text passed after := by
  induction text generalizing before with
  | nil =>
      unfold cutFrom?
      cases here : dropPrefix? [] mark with
      | none =>
          simp only [reduceCtorEq, false_iff]
          rintro ⟨passed, -, cut⟩
          have joined := cut.joined
          simp only [List.nil_eq, List.append_eq_nil_iff] at joined
          simp [joined.2.1, dropPrefix?] at here
      | some rest =>
          have joined := dropPrefix?_eq_some_iff.mp here
          simp only [List.nil_eq, List.append_eq_nil_iff] at joined
          obtain ⟨rfl, rfl⟩ := joined
          constructor
          · intro found
            obtain ⟨rfl, rfl⟩ : before.reverse = front ∧ [] = after := by simpa using found
            exact ⟨[], by simp, isFirstCut_nil.mpr rfl⟩
          · rintro ⟨passed, rfl, cut⟩
            have joined := cut.joined
            simp only [List.nil_append, List.nil_eq, List.append_eq_nil_iff] at joined
            simp [joined]
  | cons c text ih =>
      unfold cutFrom?
      cases here : dropPrefix? (c :: text) mark with
      | some rest =>
          have joined := dropPrefix?_eq_some_iff.mp here
          constructor
          · intro found
            obtain ⟨rfl, rfl⟩ : before.reverse = front ∧ rest = after := by simpa using found
            exact ⟨[], by simp, isFirstCut_nil.mpr joined⟩
          · rintro ⟨passed, rfl, cut⟩
            obtain rfl := cut.eq_nil ⟨rest, joined.symm⟩
            have same : mark ++ rest = mark ++ after := by
              rw [← joined, isFirstCut_nil.mp cut]
            simp [List.append_cancel_left same]
      | none =>
          have missing := dropPrefix?_eq_none_iff.mp here
          simp only
          split
          next allowedHere =>
            rw [ih]
            constructor
            · rintro ⟨passed, rfl, cut⟩
              exact ⟨c :: passed, by simp, isFirstCut_cons.mpr ⟨rfl, allowedHere, missing, cut⟩⟩
            · rintro ⟨passed, rfl, cut⟩
              cases passed with
              | nil => exact (missing ⟨after, (isFirstCut_nil.mp cut).symm⟩).elim
              | cons d passed =>
                  obtain ⟨rfl, -, -, cut⟩ := isFirstCut_cons.mp cut
                  exact ⟨passed, by simp, cut⟩
          next forbidden =>
            simp only [reduceCtorEq, false_iff]
            rintro ⟨passed, -, cut⟩
            cases passed with
            | nil => exact missing ⟨after, (isFirstCut_nil.mp cut).symm⟩
            | cons d passed => exact forbidden (isFirstCut_cons.mp cut).2.1

theorem cutInLine?_eq_some_iff {text mark front after : Text} :
    text.cutInLine? mark = some (front, after) ↔
      IsFirstCut (· != '\n') mark text front after := by
  simp [cutInLine?, cutFrom?_eq_some_iff]

theorem cut?_eq_some_iff {text mark front after : Text} :
    text.cut? mark = some (front, after) ↔ IsFirstCut (fun _ => true) mark text front after := by
  simp [cut?, cutFrom?_eq_some_iff]

theorem exists_isFirstCut_append {allowed : Char → Bool} {front : Text} (mark rest : Text)
    (passed : ∀ c ∈ front, allowed c = true) :
    ∃ before after, IsFirstCut allowed mark (front ++ (mark ++ rest)) before after := by
  induction front with
  | nil => exact ⟨[], rest, isFirstCut_nil.mpr rfl⟩
  | cons c front ih =>
      by_cases here : mark <+: c :: (front ++ (mark ++ rest))
      · obtain ⟨after, joined⟩ := here
        exact ⟨[], after, isFirstCut_nil.mpr joined.symm⟩
      · obtain ⟨before, after, cut⟩ := ih fun d member => passed d (List.mem_cons_of_mem c member)
        exact ⟨c :: before, after,
          isFirstCut_cons.mpr ⟨rfl, passed c List.mem_cons_self, here, cut⟩⟩

theorem exists_isFirstCut {text mark : Text} (occurs : mark <:+: text) :
    ∃ front after, IsFirstCut (fun _ => true) mark text front after := by
  obtain ⟨front, rest, rfl⟩ := occurs
  rw [List.append_assoc]
  exact exists_isFirstCut_append mark rest fun _ _ => rfl

theorem cut?_eq_none_iff {text mark : Text} : text.cut? mark = none ↔ ¬ mark <:+: text := by
  constructor
  · intro uncut occurs
    obtain ⟨front, after, cut⟩ := exists_isFirstCut occurs
    rw [cut?_eq_some_iff.mpr cut] at uncut
    cases uncut
  · intro missing
    cases found : text.cut? mark with
    | none => rfl
    | some cut => exact absurd ⟨cut.1, cut.2, by rw [eq_append_of_cut? found, List.append_assoc]⟩ missing

theorem IsFirstCut.suffix {allowed : Char → Bool} {mark text front after before behind : Text}
    (cut : IsFirstCut allowed mark text front after) (occurs : text = before ++ (mark ++ behind)) :
    behind <:+ after := by
  have early : front.length ≤ before.length := by
    apply Nat.le_of_not_lt
    intro late
    apply cut.first before.length late
    rw [occurs, List.drop_left]
    exact List.prefix_append mark behind
  have lengths := congrArg List.length (cut.joined.symm.trans occurs)
  simp only [List.length_append] at lengths
  have later : behind <:+ text := ⟨before ++ mark, by rw [occurs, List.append_assoc]⟩
  have rest : after <:+ text := ⟨front ++ mark, by rw [cut.joined, List.append_assoc]⟩
  exact List.suffix_of_suffix_length_le later rest (by omega)

def OnlyAtEnd (mark text : Text) : Prop :=
  ∀ front back, text ++ mark = front ++ (mark ++ back) → back = []

theorem OnlyAtEnd.not_infix {mark text : Text} (only : OnlyAtEnd mark text) (filled : mark ≠ []) :
    ¬ mark <:+: text := by
  rintro ⟨front, back, rfl⟩
  have nothing : back ++ mark = [] := only front (back ++ mark) (by simp)
  exact filled (List.append_eq_nil_iff.mp nothing).2

theorem cut?_eq_some_iff_onlyAtEnd {text mark front after : Text} :
    text.cut? mark = some (front, after) ↔ text = front ++ (mark ++ after) ∧ OnlyAtEnd mark front := by
  rw [cut?_eq_some_iff]
  constructor
  · rintro ⟨rfl, -, first⟩
    refine ⟨rfl, fun start back split => ?_⟩
    apply Classical.byContradiction
    intro more
    have lengths := congrArg List.length split
    have filled := List.length_pos_iff.mpr more
    simp only [List.length_append] at lengths
    apply first start.length (by omega)
    rw [← List.append_assoc, split, List.append_assoc, List.drop_left, List.append_assoc]
    exact List.prefix_append _ _
  · rintro ⟨rfl, only⟩
    refine ⟨rfl, fun _ _ => rfl, fun n short occurs => ?_⟩
    rw [List.drop_append_of_le_length (Nat.le_of_lt short), ← List.append_assoc] at occurs
    -- an occurrence that begins before the mark lies in front of what follows the mark
    have inside : mark <+: front.drop n ++ mark :=
      List.prefix_of_prefix_length_le occurs (List.prefix_append _ _) (by simp)
    obtain ⟨back, joined⟩ := inside
    have last := only (front.take n) back (by rw [joined, ← List.append_assoc, List.take_append_drop])
    have lengths := congrArg List.length joined
    simp only [last, List.length_append, List.length_nil, List.length_drop] at lengths
    omega

end TemplateTree.Text
