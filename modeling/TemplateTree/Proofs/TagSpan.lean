import TemplateTree.Fragment.Slice
import TemplateTree.Proofs.Occurrence

/-!
# Where tags stand in a text

`Delimiters.TagSpans` says by positions which tag starts at a place of a text. The main statement is
`Delimiters.tagSpans_zero_iff`: the scanner finds the tag at the start of a text exactly when there
is one.
-/

namespace TemplateTree

/-- A tag of the enclosure runs from position `start` to position `stop`: the closing delimiter that
ends it is the first one behind the opening one, and no line feed lies between the two. -/
def Enclosure.Spans (enclosure : Enclosure) (text : Text) (start stop : Nat) : Prop :=
  enclosure.opener.text <+: text.drop start ∧
    ∃ closing, start + enclosure.opener.text.length ≤ closing ∧
      stop = closing + enclosure.closer.text.length ∧
      enclosure.closer.text <+: text.drop closing ∧
      (∀ n, start + enclosure.opener.text.length ≤ n → n < closing →
        ¬ enclosure.closer.text <+: text.drop n) ∧
      ∀ n, start + enclosure.opener.text.length ≤ n → n < closing → text[n]? ≠ some '\n'

/-- The tag that starts at position `start` ends at position `stop`; a variable tag is preferred. -/
def Delimiters.TagSpans (delimiters : Delimiters) (text : Text) (start stop : Nat) : Prop :=
  delimiters.variableTag.Spans text start stop ∨
    ((∀ other, ¬ delimiters.variableTag.Spans text start other) ∧
      delimiters.blockTag.Spans text start stop)

theorem exists_length_eq_iff {raw rest : Text} {found : Option (Text × Text)}
    (joins : ∀ front after, found = some (front, after) → raw ++ rest = front ++ after) :
    (∃ front after, found = some (front, after) ∧ front.length = raw.length) ↔
      found = some (raw, rest) := by
  constructor
  · rintro ⟨front, after, rfl, length⟩
    obtain ⟨rfl, rfl⟩ := List.append_inj (joins front after rfl) length.symm
    rfl
  · rintro rfl
    exact ⟨raw, rest, rfl, rfl⟩

namespace Enclosure

variable {enclosure : Enclosure} {text : Text} {start stop : Nat}

theorem spans_append (front : Text) :
    enclosure.Spans (front ++ text) (front.length + start) (front.length + stop) ↔
      enclosure.Spans text start stop := by
  have shifted (n : Nat) : (front ++ text).drop (front.length + n) = text.drop n :=
    List.drop_length_add_append n
  have character (n : Nat) : (front ++ text)[front.length + n]? = text[n]? := by
    rw [List.getElem?_append_right (by omega), Nat.add_sub_cancel_left]
  constructor
  · rintro ⟨opened, closing, behind, last, here, first, inLine⟩
    obtain ⟨closing, rfl⟩ : ∃ n, closing = front.length + n := ⟨closing - front.length, by omega⟩
    refine ⟨shifted start ▸ opened, closing, by omega, by omega, shifted closing ▸ here, ?_, ?_⟩
    · intro n low high
      rw [← shifted]
      exact first (front.length + n) (by omega) (by omega)
    · intro n low high
      rw [← character]
      exact inLine (front.length + n) (by omega) (by omega)
  · rintro ⟨opened, closing, behind, last, here, first, inLine⟩
    refine ⟨shifted start ▸ opened, front.length + closing, by omega, by omega,
      shifted closing ▸ here, ?_, ?_⟩
    · intro n low high
      obtain ⟨n, rfl⟩ : ∃ m, n = front.length + m := ⟨n - front.length, by omega⟩
      rw [shifted]
      exact first n (by omega) (by omega)
    · intro n low high
      obtain ⟨n, rfl⟩ : ∃ m, n = front.length + m := ⟨n - front.length, by omega⟩
      rw [character]
      exact inLine n (by omega) (by omega)

theorem exists_spans_append (front : Text) :
    (∃ stop, enclosure.Spans (front ++ text) (front.length + start) stop) ↔
      ∃ stop, enclosure.Spans text start stop := by
  constructor
  · rintro ⟨stop, spans⟩
    have low : front.length + start ≤ stop := by
      obtain ⟨-, closing, _, rfl, -⟩ := spans
      omega
    obtain ⟨stop, rfl⟩ : ∃ n, stop = front.length + n := ⟨stop - front.length, by omega⟩
    exact ⟨stop, (spans_append front).mp spans⟩
  · rintro ⟨stop, spans⟩
    exact ⟨front.length + stop, (spans_append front).mpr spans⟩

theorem tagAt?_eq_some_iff {raw after : Text} :
    enclosure.tagAt? text = some (raw, after) ↔ ∃ body, raw = enclosure.wrap body ∧
      ∃ rest, text = enclosure.opener.text ++ rest ∧
        Text.IsFirstCut (· != '\n') enclosure.closer.text rest body after := by
  unfold tagAt?
  constructor
  · intro found
    split at found
    · cases found
    next rest opened =>
      split at found
      · cases found
      next body last closed =>
        obtain ⟨rfl, rfl⟩ : enclosure.wrap body = raw ∧ last = after := by simpa using found
        exact ⟨body, rfl, rest, Text.dropPrefix?_eq_some_iff.mp opened,
          Text.cutInLine?_eq_some_iff.mp closed⟩
  · rintro ⟨body, rfl, rest, rfl, cut⟩
    simp [Text.cutInLine?_eq_some_iff.mpr cut]

theorem spans_wrap {body after : Text}
    (cut : Text.IsFirstCut (· != '\n') enclosure.closer.text
      (body ++ (enclosure.closer.text ++ after)) body after) :
    enclosure.Spans (enclosure.wrap body ++ after) 0 (enclosure.wrap body).length := by
  have split : enclosure.wrap body ++ after =
      enclosure.opener.text ++ (body ++ (enclosure.closer.text ++ after)) := by simp [wrap]
  have behind (n : Nat) : (enclosure.wrap body ++ after).drop (enclosure.opener.text.length + n) =
      (body ++ (enclosure.closer.text ++ after)).drop n := by rw [split]; simp
  refine ⟨⟨_, split.symm⟩, enclosure.opener.text.length + body.length, by omega,
    by simp [wrap]; omega, ?_, ?_, ?_⟩
  · rw [behind]
    simp
  · intro n low high
    obtain ⟨n, rfl⟩ : ∃ m, n = enclosure.opener.text.length + m :=
      ⟨n - enclosure.opener.text.length, by omega⟩
    rw [behind]
    exact cut.first n (by omega)
  · intro n low high
    obtain ⟨n, rfl⟩ : ∃ m, n = enclosure.opener.text.length + m :=
      ⟨n - enclosure.opener.text.length, by omega⟩
    have inside : n < body.length := by omega
    rw [split, List.getElem?_append_right (by omega), Nat.add_sub_cancel_left,
      List.getElem?_append_left inside, List.getElem?_eq_getElem inside]
    intro feed
    simpa [Option.some.inj feed] using cut.passed _ (List.getElem_mem inside)

theorem exists_tagAt?_of_spans (spans : enclosure.Spans text 0 stop) :
    ∃ raw after, enclosure.tagAt? text = some (raw, after) ∧ raw.length = stop := by
  obtain ⟨⟨rest, joined⟩, closing, low, rfl, ⟨after, here⟩, first, inLine⟩ := spans
  obtain ⟨length, rfl⟩ : ∃ n, closing = enclosure.opener.text.length + n :=
    ⟨closing - enclosure.opener.text.length, by omega⟩
  have behind (n : Nat) : text.drop (enclosure.opener.text.length + n) = rest.drop n := by
    rw [← List.drop_drop, show text.drop enclosure.opener.text.length = rest by
      rw [← List.drop_zero (l := text), ← joined]; simp]
  rw [behind] at here
  have short : length ≤ rest.length := by
    have nonempty := List.length_pos_iff.mpr enclosure.closer.text_ne_nil
    have sizes := congrArg List.length here
    simp only [List.length_append, List.length_drop] at sizes
    omega
  have cut : Text.IsFirstCut (· != '\n') enclosure.closer.text rest (rest.take length) after := by
    refine ⟨by rw [here, List.take_append_drop], ?_, ?_⟩
    · intro c member
      obtain ⟨n, bound, rfl⟩ := List.getElem_of_mem member
      have inside : n < length := by simp only [List.length_take] at bound; omega
      have notFeed := inLine (enclosure.opener.text.length + n) (by omega) (by omega)
      rw [← List.drop_zero (l := text), ← joined,
        List.getElem?_append_right (by omega), Nat.add_sub_cancel_left] at notFeed
      rw [List.getElem?_eq_getElem (by omega)] at notFeed
      simpa using notFeed
    · intro n bound
      rw [List.length_take] at bound
      rw [← behind]
      exact first _ (by omega) (by omega)
  refine ⟨_, after, tagAt?_eq_some_iff.mpr ⟨_, rfl, rest, by simpa using joined.symm, cut⟩, ?_⟩
  simp only [wrap, List.length_append, List.length_take]
  omega

theorem spans_zero_iff : enclosure.Spans text 0 stop ↔
    ∃ raw after, enclosure.tagAt? text = some (raw, after) ∧ raw.length = stop := by
  constructor
  · exact exists_tagAt?_of_spans
  · rintro ⟨raw, after, found, rfl⟩
    obtain ⟨body, rfl, rest, rfl, cut⟩ := tagAt?_eq_some_iff.mp found
    obtain rfl := cut.joined
    simpa [wrap] using spans_wrap cut

theorem spans_length_iff {raw rest : Text} : enclosure.Spans (raw ++ rest) 0 raw.length ↔
    enclosure.tagAt? (raw ++ rest) = some (raw, rest) := by
  rw [spans_zero_iff]
  exact exists_length_eq_iff fun _ _ here => (eq_append_of_tagAt? here).1

end Enclosure

namespace Delimiters

variable {delimiters : Delimiters} {text : Text} {start stop : Nat}

theorem tagSpans_append (front : Text) :
    delimiters.TagSpans (front ++ text) (front.length + start) (front.length + stop) ↔
      delimiters.TagSpans text start stop := by
  unfold TagSpans
  rw [Enclosure.spans_append, Enclosure.spans_append, ← not_exists, ← not_exists,
    Enclosure.exists_spans_append]

theorem tagSpans_zero_iff : delimiters.TagSpans text 0 stop ↔
    ∃ raw after, delimiters.tagAt? text = some (raw, after) ∧ raw.length = stop := by
  unfold TagSpans tagAt?
  simp only [Enclosure.spans_zero_iff]
  cases found : delimiters.variableTag.tagAt? text with
  | some tag =>
      have none_missing : ¬ ∀ (other : Nat), ¬ ∃ raw after,
          some tag = some (raw, after) ∧ raw.length = other :=
        fun missing => missing tag.1.length ⟨tag.1, tag.2, rfl, rfl⟩
      simp only [none_missing, false_and, or_false, Option.some_or]
  | none => simp

theorem tagSpans_length_iff {raw rest : Text} :
    delimiters.TagSpans (raw ++ rest) 0 raw.length ↔
      delimiters.tagAt? (raw ++ rest) = some (raw, rest) := by
  rw [tagSpans_zero_iff]
  exact exists_length_eq_iff fun _ _ here => (eq_append_of_tagAt? here).1

theorem exists_wrap_of_tagAt? {raw after : Text}
    (found : delimiters.tagAt? text = some (raw, after)) :
    ∃ body, raw = delimiters.variableTag.wrap body ∨ raw = delimiters.blockTag.wrap body := by
  rcases Option.or_eq_some_iff.mp found with first | ⟨-, second⟩
  · obtain ⟨body, wrapped, -⟩ := Enclosure.tagAt?_eq_some_iff.mp first
    exact ⟨body, .inl wrapped⟩
  · obtain ⟨body, wrapped, -⟩ := Enclosure.tagAt?_eq_some_iff.mp second
    exact ⟨body, .inr wrapped⟩

end Delimiters

end TemplateTree
