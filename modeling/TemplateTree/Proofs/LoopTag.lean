import TemplateTree.Proofs.Recognition
import TemplateTree.Proofs.Words

/-!
# Loops by their words

A loop tag is cut by the first `in` that may stand there, which `InStands` says by places of words. The
main statement is `absorb_loop`: a loop takes exactly the tags that `IsLoop` describes.
-/

namespace TemplateTree

namespace Text

variable {text tag part rest : Text} {place n : Nat}

/-- A place at which the `in` of a loop may stand: behind the keyword and one more word, and not last. -/
structure InStands (tag : Text) (place : Nat) : Prop where
  low : 2 ≤ place
  high : place + 1 < (words tag).length
  here : (words tag)[place]? = some inWord

structure IsLoop (tag : Text) (place : Nat) : Prop where
  keyword : (words tag)[0]? = some Kind.loop.name
  stands : InStands tag place
  first : ∀ other < place, ¬ InStands tag other
  filled : listed (wordRange 1 place tag) ≠ []
  word : ∀ target ∈ listed (wordRange 1 place tag), ∀ c ∈ target, isWordChar c = true

/-! ## From words to parts -/

theorem startsIn_behind (here : (words text)[n + 1]? = some inWord) (high : n + 2 < (words text).length) :
    ∃ rest, StartsIn (behind (n + 1) text) rest := by
  obtain ⟨gap, joined, blank⟩ := exists_behind_eq here
  obtain ⟨c, rest, tail, blank', more⟩ := exists_behind_cons high
  rw [tail] at joined
  refine ⟨rest, gap, c, joined, ?_, blank, blank', ?_⟩
  · rintro rfl
    have blank'' := head_behind n text 'i' (by rw [joined]; rfl)
    revert blank''
    decide
  · rintro rfl
    have sizes := congrArg List.length more
    simp only [words_nil, List.length_nil, List.length_drop] at sizes
    omega

theorem InStands.exists_loopParts (stands : InStands tag place) (trimmed : tag.Trimmed)
    (keyword : (words tag)[0]? = some Kind.loop.name) : ∃ part rest, LoopParts tag part rest := by
  obtain ⟨n, rfl⟩ := Nat.exists_eq_add_of_le stands.low
  have high := stands.high
  have joined := eq_append_behind_one trimmed.1 keyword
  have cut : (behind 1 tag).takeWhile isBlank ++ fromWord 1 tag = behind 1 tag :=
    List.takeWhile_append_dropWhile
  have filled : (behind 1 tag).takeWhile isBlank ≠ [] := by
    obtain ⟨c, rest, tail, blank, -⟩ := exists_behind_cons (show 0 + 1 < (words tag).length by omega)
    simp [tail, blank]
  have here : (words (fromWord 1 tag))[n + 1]? = some inWord := by
    rw [words_fromWord, List.getElem?_drop, ← Nat.add_assoc, Nat.add_right_comm]
    exact stands.here
  obtain ⟨rest, starts⟩ := startsIn_behind here (by rw [words_fromWord, List.length_drop]; omega)
  obtain ⟨front, split⟩ := behind_suffix (n + 1) (fromWord 1 tag)
  obtain ⟨part, rest, isCut, -⟩ := exists_isInCut front starts
  rw [split] at isCut
  exact ⟨part, rest, _, fromWord 1 tag, by rw [cut, ← joined], filled, fun c => List.mem_takeWhile_imp,
    head_dropWhile, isCut⟩

/-! ## From parts to words -/

theorem isBlank_of_mem_inWord : ∀ c ∈ inWord, isBlank c = false :=
  List.forall_mem_cons.mpr ⟨rfl, List.forall_mem_singleton.mpr rfl⟩

theorem StartsIn.words_append (starts : StartsIn text rest) (front : Text) :
    words (front ++ text) = words front ++ inWord :: words rest := by
  obtain ⟨gap, c, rfl, filled, blank, blank', -⟩ := starts
  have some : inWord ≠ [] := List.cons_ne_nil _ _
  have ends : ∀ d ∈ (c :: rest).head?, isBlank d = true := by simpa using blank'
  cases gap with
  | nil => exact absurd rfl filled
  | cons b gap =>
      obtain ⟨here, blanks⟩ := List.forall_mem_cons.mp blank
      rw [List.cons_append, words_append_cons here, words_blank_append blanks,
        Text.words_append some isBlank_of_mem_inWord ends, words_cons blank']

theorem StartsIn.fromWord_one (starts : StartsIn text rest) : fromWord 1 text = rest.dropWhile isBlank := by
  obtain ⟨gap, c, rfl, -, blank, blank', -⟩ := starts
  have some : inWord ≠ [] := List.cons_ne_nil _ _
  have ends : ∀ d ∈ (c :: rest).head?, isBlank d = true := by simpa using blank'
  rw [fromWord, behind_one_eq blank some isBlank_of_mem_inWord ends, List.dropWhile_cons, if_pos blank']

namespace IsInCut

theorem solid (cut : IsInCut text part rest) : ∀ c ∈ part.getLast?, isBlank c = false := by
  intro c last
  obtain ⟨init, rfl⟩ := List.getLast?_eq_some_iff.mp last
  cases blank : isBlank c with
  | false => rfl
  | true =>
      obtain ⟨tail, rfl, gap, d, rfl, -, blanks, others⟩ := cut.joined
      have starts : StartsIn (c :: (gap ++ (inWord ++ d :: rest))) rest :=
        ⟨c :: gap, d, rfl, List.cons_ne_nil c gap, List.forall_mem_cons.mpr ⟨blank, blanks⟩, others⟩
      have before := cut.first init.length (by simp) rest
      rw [List.append_assoc, List.drop_left] at before
      exact absurd starts before

theorem exists_behind (cut : IsInCut text part rest) :
    StartsIn (behind (words part).length text) rest ∧ text = part ++ behind (words part).length text := by
  have solid := cut.solid
  obtain ⟨tail, rfl, starts⟩ := cut.joined
  have blank : ∀ c ∈ tail.head?, isBlank c = true := by
    obtain ⟨c, tail, rfl, blank⟩ := starts.head
    simpa using blank
  rw [behind_append solid blank]
  exact ⟨starts, rfl⟩

theorem length_le (cut : IsInCut text part rest) (here : (words text)[n + 1]? = some inWord)
    (high : n + 2 < (words text).length) : (words part).length ≤ n + 1 := by
  by_contra early
  -- the earlier `in` would start in front of the cut
  obtain ⟨other, starts⟩ := startsIn_behind here high
  obtain ⟨front, split⟩ := behind_suffix (n + 1) text
  have shorter : (behind (n + 2) text).length < (behind (n + 1) text).length :=
    length_behind_lt (by omega)
  have shortest := length_behind_le (show n + 2 ≤ (words part).length by omega) text
  have sizes := congrArg List.length split
  have sizes' := congrArg List.length cut.exists_behind.2
  simp only [List.length_append] at sizes sizes'
  apply cut.first front.length (by omega) other
  rw [← split, List.drop_left]
  exact starts

end IsInCut

namespace LoopParts

theorem keyword (parts : LoopParts tag part rest) : words tag = Kind.loop.name :: words (fromWord 1 tag) ∧
    (∀ c ∈ (fromWord 1 tag).head?, isBlank c = false) ∧ IsInCut (fromWord 1 tag) part rest := by
  obtain ⟨gap, body, rfl, filled, blank, solid, cut⟩ := parts
  have some : Kind.loop.name ≠ [] := List.cons_ne_nil _ _
  have solid' : ∀ c ∈ Kind.loop.name, isBlank c = false :=
    List.forall_mem_cons.mpr ⟨rfl, List.forall_mem_cons.mpr ⟨rfl, List.forall_mem_singleton.mpr rfl⟩⟩
  have ends : ∀ c ∈ (gap ++ body).head?, isBlank c = true := by
    intro c first
    rw [List.head?_append_of_ne_nil _ filled] at first
    exact blank c (List.mem_of_mem_head? first)
  have tail : behind 1 ([] ++ (Kind.loop.name ++ (gap ++ body))) = gap ++ body :=
    behind_one_eq (List.forall_mem_nil _) some solid' ends
  have body' : fromWord 1 (Kind.loop.name ++ (gap ++ body)) = body := by
    rw [fromWord, ← List.nil_append (Kind.loop.name ++ _), tail, (span_append blank solid).2]
  rw [body', words_append some solid' ends, words_blank_append blank]
  exact ⟨rfl, solid, cut⟩

theorem exists_length (parts : LoopParts tag part rest) : ∃ n, (words part).length = n + 1 ∧
    behind (n + 2) tag = behind (n + 1) (fromWord 1 tag) := by
  obtain ⟨-, solid, cut⟩ := parts.keyword
  obtain ⟨starts, -⟩ := cut.exists_behind
  cases size : (words part).length with
  | zero =>
      rw [size, behind] at starts
      obtain ⟨c, tail, joined, blank⟩ := starts.head
      rw [solid c (by rw [joined]; rfl)] at blank
      cases blank
  -- behind at least one word, the places are those of the whole tag
  | succ n => exact ⟨n, rfl, by rw [behind_fromWord, Nat.add_comm 1]⟩

theorem wordRange_eq (parts : LoopParts tag part rest) :
    wordRange 1 ((words part).length + 1) tag = part := by
  obtain ⟨-, -, cut⟩ := parts.keyword
  obtain ⟨-, split⟩ := cut.exists_behind
  obtain ⟨n, size, same⟩ := parts.exists_length
  have whole : wordRange 1 (n + 2) tag ++ behind (n + 2) tag = fromWord 1 tag :=
    wordRange_append (by omega) tag
  rw [same, ← size] at whole
  rw [size]
  exact List.append_cancel_right (whole.trans split)

theorem fromWord_eq (trimmed : tag.Trimmed) (parts : LoopParts tag part rest) :
    fromWord ((words part).length + 2) tag = rest.trim := by
  obtain ⟨-, -, cut⟩ := parts.keyword
  obtain ⟨starts, -⟩ := cut.exists_behind
  obtain ⟨n, size, same⟩ := parts.exists_length
  have argument : fromWord ((words part).length + 2) tag = rest.dropWhile isBlank := by
    rw [fromWord_succ, size, same, ← size, starts.fromWord_one]
  have solid := last_of_suffix (fromWord_suffix ((words part).length + 2) tag) trimmed.2
  rw [argument] at solid ⊢
  rw [trim, trimRight_of_last solid]

theorem inStands (trimmed : tag.Trimmed) (parts : LoopParts tag part rest) :
    InStands tag ((words part).length + 1) := by
  obtain ⟨first, -, cut⟩ := parts.keyword
  obtain ⟨starts, split⟩ := cut.exists_behind
  obtain ⟨n, size, -⟩ := parts.exists_length
  have counts := starts.words_append part
  rw [← split] at counts
  have more : 0 < (words rest).length := by
    rw [List.length_pos_iff, Ne, words_eq_nil_iff, List.dropWhile_eq_nil_iff, ← trim_eq_nil_iff]
    exact (parts.proper trimmed).1
  rw [counts] at first
  refine ⟨by omega, ?_, ?_⟩
  · rw [first, List.length_cons, List.length_append, List.length_cons]
    omega
  · simp [first]

theorem first (parts : LoopParts tag part rest) {other : Nat} (before : other < (words part).length + 1) :
    ¬ InStands tag other := by
  intro stands
  obtain ⟨keyword, -, cut⟩ := parts.keyword
  obtain ⟨n, rfl⟩ := Nat.exists_eq_add_of_le stands.low
  have high := stands.high
  have here := stands.here
  rw [keyword, Nat.add_comm 2 n] at here
  rw [keyword, List.length_cons] at high
  have late := cut.length_le here (by omega)
  omega

end LoopParts

theorem eq_of_first {other : Nat} (stands : InStands tag place) (first : ∀ n < place, ¬ InStands tag n)
    (stands' : InStands tag other) (first' : ∀ n < other, ¬ InStands tag n) : place = other := by
  rcases Nat.lt_trichotomy place other with less | same | more
  · exact absurd stands (first' place less)
  · exact same
  · exact absurd stands' (first other more)

end Text

namespace Content

open Text

variable {tag part rest : Text} {place : Nat} {content : Content}

theorem readLoop_eq_ok_iff (parts : LoopParts tag part rest) : readLoop tag = .ok content ↔
    (part.listed ≠ [] ∧ ∀ target ∈ part.listed, ∀ c ∈ target, isWordChar c = true) ∧
      content = .loop part.listed rest.trim := by
  have all : part.listed.all isWord = true ↔ ∀ target ∈ part.listed, ∀ c ∈ target, isWordChar c = true := by
    rw [List.all_eq_true]
    refine forall₂_congr fun target member => ?_
    rw [isWord_iff, and_iff_right (mem_listed.mp member).1]
  rw [readLoop, parts.loopParts?_eq, ← all]
  dsimp only
  split
  next both =>
    rw [Bool.and_eq_true, decide_eq_true_eq] at both
    rw [and_iff_right both, Except.ok.injEq, eq_comm]
  next refused =>
    rw [Bool.and_eq_true, decide_eq_true_eq] at refused
    exact iff_of_false (fun read => by cases read) fun read => refused read.1

theorem readLoop_of_isLoop (trimmed : tag.Trimmed) (loop : IsLoop tag place) :
    readLoop tag = .ok (.loop (wordRange 1 place tag).listed (fromWord (place + 1) tag)) := by
  obtain ⟨part, rest, parts⟩ := loop.stands.exists_loopParts trimmed loop.keyword
  obtain rfl := eq_of_first (parts.inStands trimmed) (fun _ => parts.first) loop.stands loop.first
  have filled := loop.filled
  have word := loop.word
  rw [parts.wordRange_eq] at filled word ⊢
  rw [parts.fromWord_eq trimmed, readLoop_eq_ok_iff parts]
  exact ⟨⟨filled, word⟩, rfl⟩

theorem exists_isLoop (trimmed : tag.Trimmed) (read : readLoop tag = .ok content) :
    ∃ place, IsLoop tag place := by
  obtain ⟨part, rest, parts⟩ := exists_loopParts_of_readLoop read
  obtain ⟨both, -⟩ := (readLoop_eq_ok_iff parts).mp read
  rw [← parts.wordRange_eq] at both
  refine ⟨_, ?_, parts.inStands trimmed, fun _ => parts.first, both.1, both.2⟩
  rw [parts.keyword.1]
  rfl

end Content

namespace Node

variable {node : Node} {fragment : Fragment}

theorem read_of_loop (isLoop : node.kind = .loop) :
    node.content.read fragment = Content.readLoop fragment.clean := by
  obtain ⟨content, tag, closing⟩ := node
  cases content with
  | loop targets iterable => rfl
  | _ => cases isLoop

/-- A loop takes a tag exactly when it is a loop by its words, and then has its targets and what it runs
over from the places of words. A tag that it refuses leaves these as they were. -/
theorem absorb_loop (isLoop : node.kind = .loop) (trimmed : fragment.clean.trim = fragment.clean) :
    ((node.absorb fragment).2 = none ↔ ∃ place, fragment.clean.IsLoop place) ∧
      (∀ place, fragment.clean.IsLoop place → (node.absorb fragment).1 =
        { node with
          tag := some fragment.clean
          content := .loop (Text.wordRange 1 place fragment.clean).listed
            (Text.fromWord (place + 1) fragment.clean) }) ∧
      ∀ error, (node.absorb fragment).2 = some error →
        (node.absorb fragment).1 = { node with tag := some fragment.clean } ∧
          (error = .unknownTag fragment.clean ∨ error = .invalidTargets fragment.clean) := by
  have trimmed' := Text.trim_eq_self_iff.mp trimmed
  rw [absorb, read, read_of_loop isLoop]
  cases reads : Content.readLoop fragment.clean with
  | ok content =>
      obtain ⟨place, loop⟩ := Content.exists_isLoop trimmed' reads
      refine ⟨iff_of_true rfl ⟨place, loop⟩, fun other loop' => ?_, fun error failed => by cases failed⟩
      obtain rfl := Except.ok.inj (reads.symm.trans (Content.readLoop_of_isLoop trimmed' loop'))
      rfl
  | error error =>
      have refused : ¬ ∃ place, fragment.clean.IsLoop place := by
        rintro ⟨place, loop⟩
        rw [Content.readLoop_of_isLoop trimmed' loop] at reads
        cases reads
      refine ⟨iff_of_false (by simp [Except.map]) refused, fun place loop => ?_, fun other failed => ?_⟩
      · exact absurd ⟨place, loop⟩ refused
      · obtain rfl := Option.some.inj failed
        exact ⟨rfl, Content.readLoop_error reads⟩

theorem absorb_loop_twice :
    let fragment := Fragment.ofBlock "\x7b% for a, b in in x %\x7d".toList "for a, b in in x".toList
    (fresh .loop).kind = .loop ∧ fragment.clean.trim = fragment.clean ∧ fragment.clean.IsLoop 3 ∧
      ((fresh .loop).absorb fragment).1.content = .loop [['a'], ['b']] "in x".toList := by
  intro fragment
  have trimmed : fragment.clean.trim = fragment.clean := by decide
  have loop : fragment.clean.IsLoop 3 := by
    have targets : (Text.wordRange 1 3 fragment.clean).listed = [['a'], ['b']] := by decide
    refine ⟨rfl, ⟨by decide, by decide, rfl⟩, ?_, by rw [targets]; exact List.cons_ne_nil _ _, ?_⟩
    · rintro other before ⟨low, -, here⟩
      obtain rfl : other = 2 := by omega
      revert here
      decide
    · rw [targets]
      exact List.forall_mem_cons.mpr ⟨List.forall_mem_singleton.mpr (by decide),
        List.forall_mem_singleton.mpr (List.forall_mem_singleton.mpr (by decide))⟩
  exact ⟨rfl, trimmed, loop, congrArg Node.content ((absorb_loop rfl trimmed).2.1 3 loop)⟩

end Node

end TemplateTree
