import Mathlib.Data.List.Chain
import TemplateTree.Proofs.TagSpan

/-!
# The factorization of a text into runs of text and tags

A `Factorization` cuts a text into tags and longest runs of text without a tag in them. The main
statement is `factorization_iff`: the slices of a text are its only factorization.
-/

namespace TemplateTree

namespace Slice

def isTag : Slice → Bool
  | text _ => false
  | tag _ => true

/-- Whether a slice may stand at a position of a text: a tag spans exactly the tag that starts there,
and no tag starts inside a run of text. -/
def Fits (delimiters : Delimiters) (whole : Text) (start : Nat) : Slice → Prop
  | text raw => ∀ n < raw.length, ∀ stop, ¬ delimiters.TagSpans whole (start + n) stop
  | tag raw => delimiters.TagSpans whole start (start + raw.length)

theorem fits_append {delimiters : Delimiters} {text : Text} {start : Nat} (front : Text)
    (slice : Slice) :
    slice.Fits delimiters (front ++ text) (front.length + start) ↔
      slice.Fits delimiters text start := by
  cases slice with
  | tag raw =>
      simp only [Fits, Nat.add_assoc]
      exact Delimiters.tagSpans_append front
  | text raw =>
      simp only [Fits, Nat.add_assoc]
      constructor
      · intro missing n inside stop spans
        exact missing n inside (front.length + stop) ((Delimiters.tagSpans_append front).mpr spans)
      · intro missing n inside stop spans
        have low : front.length ≤ stop := by
          rcases spans with spans | ⟨-, spans⟩ <;>
          · obtain ⟨-, closing, _, rfl, -⟩ := spans
            omega
        obtain ⟨stop, rfl⟩ : ∃ m, stop = front.length + m := ⟨stop - front.length, by omega⟩
        exact missing n inside stop ((Delimiters.tagSpans_append front).mp spans)

end Slice

/-- A text cut into tags and runs of text, none empty and no two runs of text in a row, each of
which fits where it stands. -/
structure Factorization (delimiters : Delimiters) (text : Text) (slices : List Slice) : Prop where
  joined : slices.flatMap Slice.raw = text
  nonempty : ∀ slice ∈ slices, slice.raw ≠ []
  separated : slices.IsChain fun first second => first.isTag = true ∨ second.isTag = true
  placed : ∀ front slice back, slices = front ++ slice :: back →
    slice.Fits delimiters text (front.flatMap Slice.raw).length

section

variable {delimiters : Delimiters} {text : Text}

theorem factorization_nil : Factorization delimiters text [] ↔ text = [] := by
  constructor
  · intro factors
    simpa using factors.joined.symm
  · rintro rfl
    exact ⟨rfl, by simp, .nil, by simp⟩

theorem factorization_cons {slice : Slice} {slices : List Slice} :
    Factorization delimiters text (slice :: slices) ↔
      ∃ rest, text = slice.raw ++ rest ∧ slice.raw ≠ [] ∧
        (∀ next ∈ slices.head?, slice.isTag = true ∨ next.isTag = true) ∧
        slice.Fits delimiters text 0 ∧ Factorization delimiters rest slices := by
  constructor
  · rintro ⟨rfl, nonempty, separated, placed⟩
    rw [List.isChain_cons] at separated
    refine ⟨slices.flatMap Slice.raw, List.flatMap_cons, nonempty _ List.mem_cons_self, separated.1,
      placed [] slice slices rfl, rfl, ?_, separated.2, ?_⟩
    · exact fun other member => nonempty other (List.mem_cons_of_mem _ member)
    · rintro front other back rfl
      have here := placed (slice :: front) other back rfl
      rwa [List.flatMap_cons, List.flatMap_cons, List.length_append, Slice.fits_append] at here
  · rintro ⟨rest, rfl, nonempty, separated, fits, factors⟩
    refine ⟨by rw [List.flatMap_cons, factors.joined], ?_,
      List.isChain_cons.mpr ⟨separated, factors.separated⟩, ?_⟩
    · intro other member
      rcases List.mem_cons.mp member with rfl | member
      · exact nonempty
      · exact factors.nonempty other member
    · intro front other back split
      cases front with
      | nil =>
          obtain ⟨rfl, -⟩ := List.cons.inj split
          exact fits
      | cons first front =>
          obtain ⟨rfl, behind⟩ := List.cons.inj split
          rw [List.flatMap_cons, List.length_append, Slice.fits_append]
          exact factors.placed front other back behind

end

/-! ## How slices grow -/

namespace Delimiters

def joinText (raw : Text) : List Slice → List Slice
  | .text first :: slices => .text (raw ++ first) :: slices
  | slices => if raw = [] then slices else .text raw :: slices

@[simp] theorem joinText_nil (slices : List Slice) : joinText [] slices = slices := by
  unfold joinText
  split <;> simp

theorem joinText_joinText (first second : Text) (slices : List Slice) :
    joinText first (joinText second slices) = joinText (first ++ second) slices := by
  cases slices with
  | nil => by_cases empty : second = [] <;> simp [joinText, empty]
  | cons slice slices =>
      cases slice with
      | text raw => simp [joinText]
      | tag raw => by_cases empty : second = [] <;> simp [joinText, empty]

theorem joinText_textBefore (read : Text) {slices : List Slice}
    (tagged : ∀ slice ∈ slices.head?, slice.isTag = true) :
    textBefore read slices = joinText read.reverse slices := by
  cases slices with
  | nil => simp [textBefore, joinText]
  | cons slice slices =>
      cases slice with
      | text raw => simp [Slice.isTag] at tagged
      | tag raw => simp [textBefore, joinText]

variable {delimiters : Delimiters} {text : Text}

theorem slicesFrom_of_tagAt? {read raw after : Text}
    (found : delimiters.tagAt? text = some (raw, after)) :
    delimiters.slicesFrom read text = textBefore read (.tag raw :: delimiters.slices after) := by
  cases text with
  | nil =>
      obtain ⟨joined, nonempty⟩ := eq_append_of_tagAt? found
      simp [nonempty] at joined
  | cons c text =>
      rw [slicesFrom]
      split
      next other tail foundOther =>
        obtain ⟨rfl, rfl⟩ : other = raw ∧ tail = after := by simpa [foundOther] using found
        rfl
      next missing => simp [missing] at found

theorem slicesFrom_of_no_tag {read : Text} {c : Char}
    (missing : delimiters.tagAt? (c :: text) = none) :
    delimiters.slicesFrom read (c :: text) = delimiters.slicesFrom (c :: read) text := by
  rw [slicesFrom]
  split
  next raw after found => simp [missing] at found
  next => rfl

theorem slicesFrom_eq (read text : Text) :
    delimiters.slicesFrom read text = joinText read.reverse (delimiters.slices text) := by
  induction text generalizing read with
  | nil => simp [slices, slicesFrom, textBefore, joinText]
  | cons c text ih =>
      cases found : delimiters.tagAt? (c :: text) with
      | some tag =>
          rw [slices, slicesFrom_of_tagAt? found, slicesFrom_of_tagAt? found,
            joinText_textBefore read (by simp [Slice.isTag]),
            joinText_textBefore [] (by simp [Slice.isTag])]
          simp
      | none =>
          rw [slices, slicesFrom_of_no_tag found, slicesFrom_of_no_tag found, ih (c :: read),
            ih [c], joinText_joinText]
          simp

/-- Induction along the scan of a text: a tag is passed as a whole, other characters one by one. -/
theorem scan_induction (delimiters : Delimiters) {motive : Text → Prop} (nil : motive [])
    (tag : ∀ text raw after, delimiters.tagAt? text = some (raw, after) → motive after → motive text)
    (plain : ∀ c text, delimiters.tagAt? (c :: text) = none → motive text → motive (c :: text))
    (text : Text) : motive text := by
  induction size : text.length using Nat.strong_induction_on generalizing text with
  | _ size ih =>
      cases text with
      | nil => exact nil
      | cons c text =>
          cases found : delimiters.tagAt? (c :: text) with
          | none => exact plain c text found (ih text.length (by simp [← size]) text rfl)
          | some cut =>
              have shorter := length_of_tagAt? found
              exact tag (c :: text) cut.1 cut.2 found (ih cut.2.length (size ▸ shorter) cut.2 rfl)

@[simp] theorem slices_nil : delimiters.slices [] = [] := by
  simp [slices, slicesFrom, textBefore]

theorem slices_of_tagAt? {raw after : Text} (found : delimiters.tagAt? text = some (raw, after)) :
    delimiters.slices text = .tag raw :: delimiters.slices after := by
  rw [slices, slicesFrom_of_tagAt? found]
  rfl

theorem slices_of_no_tag {c : Char} (missing : delimiters.tagAt? (c :: text) = none) :
    delimiters.slices (c :: text) = joinText [c] (delimiters.slices text) := by
  rw [slices, slicesFrom_of_no_tag missing, slicesFrom_eq]
  rfl

theorem tagAt?_eq_none_iff :
    delimiters.tagAt? text = none ↔ ∀ stop, ¬ delimiters.TagSpans text 0 stop := by
  constructor
  · intro missing stop spans
    obtain ⟨raw, after, found, -⟩ := tagSpans_zero_iff.mp spans
    simp [missing] at found
  · intro missing
    cases found : delimiters.tagAt? text with
    | none => rfl
    | some tag => exact (missing tag.1.length (tagSpans_zero_iff.mpr ⟨_, _, found, rfl⟩)).elim

theorem slices_append_of_untagged {raw rest : Text}
    (untagged : (Slice.text raw).Fits delimiters (raw ++ rest) 0) :
    delimiters.slices (raw ++ rest) = joinText raw (delimiters.slices rest) := by
  induction raw with
  | nil => simp
  | cons c raw ih =>
      have missing : delimiters.tagAt? (c :: (raw ++ rest)) = none := by
        rw [tagAt?_eq_none_iff]
        simpa using untagged 0 (by simp)
      have behind : (Slice.text raw).Fits delimiters (raw ++ rest) 0 := by
        rw [← Slice.fits_append [c]]
        intro n inside stop
        simpa [Nat.add_comm] using untagged (n + 1) (by simpa using inside) stop
      rw [List.cons_append, slices_of_no_tag missing, ih behind, joinText_joinText]
      rfl

end Delimiters

/-! ## Existence and uniqueness -/

section

open Delimiters

variable {delimiters : Delimiters} {text : Text}

theorem Factorization.joinText_cons {slices : List Slice} {c : Char}
    (missing : delimiters.tagAt? (c :: text) = none)
    (factors : Factorization delimiters text slices) :
    Factorization delimiters (c :: text) (joinText [c] slices) := by
  have noTag := tagAt?_eq_none_iff.mp missing
  have alone : (Slice.text [c]).Fits delimiters (c :: text) 0 := by
    intro n inside
    obtain rfl : n = 0 := by simpa using inside
    exact noTag
  cases slices with
  | nil =>
      obtain rfl := factorization_nil.mp factors
      exact factorization_cons.mpr ⟨[], rfl, by simp [Slice.raw], by simp, alone, factors⟩
  | cons slice slices =>
      cases slice with
      | tag raw =>
          exact factorization_cons.mpr
            ⟨text, rfl, by simp [Slice.raw], by simp [Slice.isTag], alone, factors⟩
      | text raw =>
          obtain ⟨rest, rfl, -, separated, fits, factors⟩ := factorization_cons.mp factors
          refine factorization_cons.mpr ⟨rest, rfl, by simp [Slice.raw], separated, ?_, factors⟩
          intro n inside
          cases n with
          | zero => exact noTag
          | succ n =>
              have shifted := (Slice.fits_append [c] (.text raw)).mpr fits
              simpa [Nat.add_comm] using shifted n (by simpa [Slice.raw] using inside)

theorem factorization_slices (text : Text) :
    Factorization delimiters text (delimiters.slices text) := by
  induction text using scan_induction delimiters with
  | nil =>
      rw [slices_nil]
      exact factorization_nil.mpr rfl
  | plain c text missing ih =>
      rw [slices_of_no_tag missing]
      exact .joinText_cons missing ih
  | tag text raw after found ih =>
      obtain ⟨joined, nonempty⟩ := eq_append_of_tagAt? found
      rw [slices_of_tagAt? found]
      refine factorization_cons.mpr ⟨after, joined, nonempty, by simp [Slice.isTag], ?_, ih⟩
      exact tagSpans_zero_iff.mpr ⟨raw, after, found, by simp⟩

theorem Factorization.eq_slices {slices : List Slice}
    (factors : Factorization delimiters text slices) : slices = delimiters.slices text := by
  induction slices generalizing text with
  | nil =>
      obtain rfl := factorization_nil.mp factors
      simp
  | cons slice slices ih =>
      obtain ⟨rest, rfl, nonempty, separated, fits, behind⟩ := factorization_cons.mp factors
      cases slice with
      | tag raw =>
          have here : delimiters.tagAt? (raw ++ rest) = some (raw, rest) :=
            tagSpans_length_iff.mp (by simpa [Slice.Fits, Slice.raw] using fits)
          change Slice.tag raw :: slices = delimiters.slices (raw ++ rest)
          rw [slices_of_tagAt? here, ih behind]
      | text raw =>
          have split : delimiters.slices (raw ++ rest) = joinText raw slices := by
            rw [ih behind]
            exact slices_append_of_untagged fits
          change Slice.text raw :: slices = delimiters.slices (raw ++ rest)
          rw [split]
          -- The slices behind do not start with text, so none is joined to `raw`.
          cases slices with
          | nil => simp [joinText, show raw ≠ [] from nonempty]
          | cons next slices =>
              cases next with
              | text other => simp [Slice.isTag] at separated
              | tag other => simp [joinText, show raw ≠ [] from nonempty]

theorem Factorization.joined_of_split {slices front back : List Slice} {slice : Slice}
    (factors : Factorization delimiters text slices) (split : slices = front ++ slice :: back) :
    text = front.flatMap Slice.raw ++ (slice.raw ++ back.flatMap Slice.raw) := by
  rw [← factors.joined, split, List.flatMap_append, List.flatMap_cons]

theorem Factorization.tagAt?_of_split {slices front back : List Slice} {raw : Text}
    (factors : Factorization delimiters text slices) (split : slices = front ++ .tag raw :: back) :
    delimiters.tagAt? (raw ++ back.flatMap Slice.raw) = some (raw, back.flatMap Slice.raw) := by
  have fits := factors.placed front (.tag raw) back split
  rw [factors.joined_of_split split, ← Nat.add_zero (List.flatMap Slice.raw front).length,
    Slice.fits_append] at fits
  exact tagSpans_length_iff.mp (by simpa [Slice.Fits, Slice.raw] using fits)

theorem Factorization.exists_wrap {slices : List Slice} {raw : Text}
    (factors : Factorization delimiters text slices) (member : .tag raw ∈ slices) :
    ∃ body, raw = delimiters.variableTag.wrap body ∨ raw = delimiters.blockTag.wrap body := by
  obtain ⟨front, back, split⟩ := List.append_of_mem member
  exact exists_wrap_of_tagAt? (factors.tagAt?_of_split split)

theorem factorization_iff {slices : List Slice} :
    Factorization delimiters text slices ↔ slices = delimiters.slices text :=
  ⟨Factorization.eq_slices, fun same => same ▸ factorization_slices text⟩

end

/-! ## Fragments -/

def Fragment.slice (fragment : Fragment) : Slice :=
  if fragment.isTag then .tag fragment.raw else .text fragment.raw

section

variable {delimiters : Delimiters}

theorem classify_raw (raw : Text) : (Fragment.classify delimiters raw).raw = raw := by
  unfold Fragment.classify
  split
  · rfl
  · split <;> rfl

theorem isTag_classify_of_wrap {raw body : Text}
    (wrapped : raw = delimiters.variableTag.wrap body ∨ raw = delimiters.blockTag.wrap body) :
    (Fragment.classify delimiters raw).isTag = true := by
  unfold Fragment.classify
  split
  · rfl
  next notVariable =>
    rcases wrapped with wrapped | wrapped
    · rw [Enclosure.unwrap?_eq_some_iff.mpr wrapped] at notVariable
      cases notVariable
    · rw [Enclosure.unwrap?_eq_some_iff.mpr wrapped]
      by_cases closing : Fragment.isClosingTag body.trim <;>
        simp [Fragment.isTag, Fragment.ofBlock, closing]

theorem Factorization.slice_toFragment {text : Text} {slices : List Slice} {slice : Slice}
    (factors : Factorization delimiters text slices) (member : slice ∈ slices) :
    (slice.toFragment delimiters).slice = slice := by
  cases slice with
  | text raw => rfl
  | tag raw =>
      obtain ⟨body, wrapped⟩ := factors.exists_wrap member
      simp [Slice.toFragment, Fragment.slice, isTag_classify_of_wrap wrapped, classify_raw]

theorem map_slice_tokenize (text : Text) :
    (tokenize delimiters text).map Fragment.slice =
      delimiters.slices (stripComments delimiters text) := by
  have factors : Factorization delimiters _ (delimiters.slices (stripComments delimiters text)) :=
    factorization_slices _
  rw [tokenize, List.map_map]
  conv_rhs => rw [← List.map_id (delimiters.slices _)]
  apply List.map_congr_left
  intro slice member
  exact factors.slice_toFragment member

theorem clean_eq_raw_of_mem_tokenize {text : Text} {fragment : Fragment}
    (member : fragment ∈ tokenize delimiters text) (plain : fragment.kind = .text) :
    fragment.clean = fragment.raw := by
  have factors : Factorization delimiters _ (delimiters.slices (stripComments delimiters text)) :=
    factorization_slices _
  obtain ⟨slice, found, rfl⟩ := List.mem_map.mp member
  cases slice with
  | text raw => rfl
  | tag raw =>
      obtain ⟨body, wrapped⟩ := factors.exists_wrap found
      have isTag := isTag_classify_of_wrap wrapped
      change (Fragment.classify delimiters raw).kind = .text at plain
      simp [Fragment.isTag, plain] at isTag

/-- The fragments of a template are the only factorization of its text without comments. -/
theorem tokenize_factorization (delimiters : Delimiters) (text : Text) :
    Factorization delimiters (stripComments delimiters text)
        ((tokenize delimiters text).map Fragment.slice) ∧
      (∀ fragment ∈ tokenize delimiters text,
        fragment.kind = .text → fragment.clean = fragment.raw) ∧
      ∀ slices, Factorization delimiters (stripComments delimiters text) slices →
        slices = (tokenize delimiters text).map Fragment.slice ∧
          slices.map (Slice.toFragment delimiters) = tokenize delimiters text := by
  refine ⟨factorization_iff.mpr (map_slice_tokenize text),
    fun fragment => clean_eq_raw_of_mem_tokenize, fun slices factors => ?_⟩
  obtain rfl := factorization_iff.mp factors
  exact ⟨(map_slice_tokenize text).symm, rfl⟩

end

end TemplateTree
