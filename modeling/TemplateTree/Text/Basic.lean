/-!
Texts as lists of characters, with the cuts that reading markup needs. The main statement is
`dropPrefix?_eq_some_iff`: a prefix is dropped exactly when the text is that prefix and the rest.
-/
namespace TemplateTree

abbrev Text := List Char

namespace Text

def dropPrefix? : (text start : Text) → Option Text
  | text, [] => some text
  | [], _ :: _ => none
  | found :: text, wanted :: start => if found = wanted then dropPrefix? text start else none

theorem dropPrefix?_eq_some_iff {text start rest : Text} :
    text.dropPrefix? start = some rest ↔ text = start ++ rest := by
  induction start generalizing text with
  | nil => simp [dropPrefix?]
  | cons wanted start ih =>
      cases text with
      | nil => simp [dropPrefix?]
      | cons found text =>
          by_cases same : found = wanted
          · simp [dropPrefix?, same, ih]
          · simp [dropPrefix?, same]

@[simp] theorem dropPrefix?_append (start rest : Text) :
    dropPrefix? (start ++ rest) start = some rest :=
  dropPrefix?_eq_some_iff.mpr rfl

def dropSuffix? (text ending : Text) : Option Text :=
  (dropPrefix? text.reverse ending.reverse).map List.reverse

theorem dropSuffix?_eq_some_iff {text ending front : Text} :
    text.dropSuffix? ending = some front ↔ text = front ++ ending := by
  simp only [dropSuffix?, Option.map_eq_some_iff, dropPrefix?_eq_some_iff]
  constructor
  · rintro ⟨back, same, rfl⟩
    simpa using congrArg List.reverse same
  · rintro rfl
    exact ⟨front.reverse, by simp, by simp⟩

/-- The parts before and after the first occurrence of `mark`, with `before` read already (last
character first); every character that is passed over has to be allowed. -/
def cutFrom? (allowed : Char → Bool) (mark before text : Text) : Option (Text × Text) :=
  match text.dropPrefix? mark with
  | some after => some (before.reverse, after)
  | none =>
      match text with
      | [] => none
      | c :: text => if allowed c then cutFrom? allowed mark (c :: before) text else none

def cut? (text mark : Text) : Option (Text × Text) :=
  cutFrom? (fun _ => true) mark [] text

def cutInLine? (text mark : Text) : Option (Text × Text) :=
  cutFrom? (· != '\n') mark [] text

theorem eq_append_of_cutFrom? {allowed : Char → Bool} {mark before text front after : Text}
    (found : cutFrom? allowed mark before text = some (front, after)) :
    before.reverse ++ text = front ++ (mark ++ after) := by
  induction text generalizing before with
  | nil =>
      unfold cutFrom? at found
      split at found
      next rest here =>
        obtain ⟨rfl, rfl⟩ : before.reverse = front ∧ rest = after := by simpa using found
        rw [dropPrefix?_eq_some_iff.mp here]
      next => cases found
  | cons c text ih =>
      unfold cutFrom? at found
      split at found
      next rest here =>
        obtain ⟨rfl, rfl⟩ : before.reverse = front ∧ rest = after := by simpa using found
        rw [dropPrefix?_eq_some_iff.mp here]
      next =>
        simp only at found
        split at found
        · simpa using ih found
        · cases found

theorem eq_append_of_cut? {text mark front after : Text}
    (found : text.cut? mark = some (front, after)) : text = front ++ (mark ++ after) := by
  simpa using eq_append_of_cutFrom? found

theorem eq_append_of_cutInLine? {text mark front after : Text}
    (found : text.cutInLine? mark = some (front, after)) : text = front ++ (mark ++ after) := by
  simpa using eq_append_of_cutFrom? found

def pieces (isCut : Char → Bool) (text : Text) : List Text :=
  text.foldr (fun c found =>
    if isCut c then [] :: found else (c :: found.headD []) :: found.tail) [[]]

@[simp] theorem pieces_nil (isCut : Char → Bool) : pieces isCut [] = [[]] := rfl

theorem pieces_cons (isCut : Char → Bool) (c : Char) (text : Text) :
    pieces isCut (c :: text) = if isCut c then [] :: pieces isCut text
      else (c :: (pieces isCut text).headD []) :: (pieces isCut text).tail := rfl

theorem pieces_ne_nil (isCut : Char → Bool) (text : Text) : pieces isCut text ≠ [] := by
  cases text with
  | nil => simp
  | cons c text => rw [pieces_cons]; split <;> simp

def joined (mark : Text) : List Text → Text
  | [] => []
  | [only] => only
  | first :: rest => first ++ rest.flatMap (mark ++ ·)

def isUpTo : (first second : Text) → Bool
  | [], _ => true
  | _ :: _, [] => false
  | c :: first, d :: second =>
      if c = d then isUpTo first second else decide (c.toNat < d.toNat)

end Text

end TemplateTree
