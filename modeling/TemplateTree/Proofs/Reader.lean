import TemplateTree.Proofs.Occurrence
import TemplateTree.Proofs.Utf8
import TemplateTree.Reader

/-!
# Documents in files and in memory

A text in a file compiles as it does in memory once its line breaks are line feeds
(`Compiler.compileFrom_ofFile`): the bytes are read as the text that they were written for, and reading
changes nothing but carriage returns.
-/

namespace TemplateTree

namespace Text

variable {mark : Mark} {new text : Text} {c : Char}

/-! ## Replacing a mark -/

def replaceAll (mark : Mark) (new text : Text) : Text :=
  match _ : text.dropPrefix? mark.text with
  | some after => new ++ replaceAll mark new after
  | none =>
      match text with
      | [] => []
      | c :: text => c :: replaceAll mark new text
termination_by text.length
decreasing_by
  · have joined := dropPrefix?_eq_some_iff.mp ‹_›
    have filled := List.length_pos_iff.mpr mark.text_ne_nil
    rw [joined, List.length_append]
    omega
  · exact Nat.lt_succ_self _

theorem replaceAll_mark (mark : Mark) (new after : Text) :
    replaceAll mark new (mark.text ++ after) = new ++ replaceAll mark new after := by
  rw [replaceAll]
  split
  next found =>
    rw [dropPrefix?_append] at found
    rw [Option.some.inj found]
  next missing =>
    rw [dropPrefix?_append] at missing
    cases missing

theorem replaceAll_cons (missing : ¬ mark.text <+: c :: text) :
    replaceAll mark new (c :: text) = c :: replaceAll mark new text := by
  have unfound := dropPrefix?_eq_none_iff.mpr missing
  rw [replaceAll]
  split
  next found =>
    rw [unfound] at found
    cases found
  next => rfl

@[simp] theorem replaceAll_nil (mark : Mark) (new : Text) : replaceAll mark new [] = [] := by
  rw [replaceAll]
  split
  next found =>
    have joined := dropPrefix?_eq_some_iff.mp found
    exact absurd (List.append_eq_nil_iff.mp joined.symm).1 mark.text_ne_nil
  next => rfl

theorem replaceAll_of_notMem (starts : mark.text.head? = some c) (missing : c ∉ text) :
    replaceAll mark new text = text := by
  obtain ⟨behind, spelled⟩ := List.head?_eq_some_iff.mp starts
  induction text with
  | nil => exact replaceAll_nil mark new
  | cons d text ih =>
      obtain ⟨other, missing⟩ := not_or.mp (mt List.mem_cons.mpr missing)
      rw [replaceAll_cons, ih missing]
      rintro ⟨after, joined⟩
      rw [spelled] at joined
      exact other (List.cons.inj joined).1

/-! ## Line breaks -/

def carriageReturn : Mark := ⟨['\r'], List.cons_ne_nil _ _⟩

def lineEnd : Mark := .pair '\r' '\n'

/-- The text with a line feed in place of each `lineEnd`, and then of each other `carriageReturn`. -/
def withLineFeeds (text : Text) : Text :=
  replaceAll carriageReturn ['\n'] (replaceAll lineEnd ['\n'] text)

theorem withLineFeeds_of_notMem (missing : '\r' ∉ text) : withLineFeeds text = text := by
  have unpaired : replaceAll lineEnd ['\n'] text = text := replaceAll_of_notMem rfl missing
  rw [withLineFeeds, unpaired]
  exact replaceAll_of_notMem rfl missing

theorem replaceAll_carriageReturn_cons (c : Char) (text : Text) :
    replaceAll carriageReturn ['\n'] (c :: text) =
      (if c = '\r' then '\n' else c) :: replaceAll carriageReturn ['\n'] text := by
  by_cases same : c = '\r'
  · rw [if_pos same, same]
    exact replaceAll_mark carriageReturn ['\n'] text
  · rw [if_neg same, replaceAll_cons]
    rintro ⟨after, joined⟩
    exact same (List.cons.inj joined).1.symm

theorem withLineFeeds_lineEnd (text : Text) :
    withLineFeeds ('\r' :: '\n' :: text) = '\n' :: withLineFeeds text := by
  have replaced : replaceAll lineEnd ['\n'] ('\r' :: '\n' :: text) =
      '\n' :: replaceAll lineEnd ['\n'] text := replaceAll_mark lineEnd ['\n'] text
  rw [withLineFeeds, replaced, replaceAll_carriageReturn_cons, if_neg (by decide), withLineFeeds]

theorem withLineFeeds_cons (unpaired : ∀ after, c = '\r' → text ≠ '\n' :: after) :
    withLineFeeds (c :: text) = (if c = '\r' then '\n' else c) :: withLineFeeds text := by
  have missing : ¬ lineEnd.text <+: c :: text := by
    rintro ⟨after, joined⟩
    obtain ⟨first, behind⟩ := List.cons.inj joined
    exact unpaired after first.symm behind.symm
  rw [withLineFeeds, replaceAll_cons missing, replaceAll_carriageReturn_cons, withLineFeeds]

theorem unifyLineBreaksFrom_eq (read text : Text) :
    unifyLineBreaksFrom read text = read.reverse ++ withLineFeeds text := by
  fun_induction unifyLineBreaksFrom read text with
  | case1 read => simp [withLineFeeds]
  | case2 read text ih => simp [ih, withLineFeeds_lineEnd]
  | case3 read c text unpaired ih =>
      have single := withLineFeeds_cons unpaired
      simp [ih, single]

theorem unifyLineBreaks_eq (text : Text) : unifyLineBreaks text = withLineFeeds text :=
  unifyLineBreaksFrom_eq [] text

end Text

variable {files : Files} {path : Path} {text : Text}

theorem Files.readText_of_toUtf8 (written : files.read path = .ok text.toUtf8) :
    files.readText path = .ok text.withLineFeeds := by
  rw [readText, written]
  dsimp only
  rw [Text.ofUtf8_toUtf8, ← Text.unifyLineBreaks_eq]

namespace Compiler

/-- A file with a text in UTF-8 has the outcome of the text that has line feeds for line breaks. -/
theorem compileFrom_ofFile (compiler : Compiler) (written : files.read path = .ok text.toUtf8) :
    let file := Reader.ofFile files path
    compiler.compileFrom file = compiler.compileText text.withLineFeeds file.id ∧
      ('\r' ∉ text → compiler.compileFrom file = compiler.compileText text file.id) := by
  have read : Reader.ofFile files path = .ofText text.withLineFeeds path.toText := by
    rw [Reader.ofFile, Files.readText_of_toUtf8 written, Reader.ofText]
  refine ⟨congrArg compiler.compileFrom read, fun missing => ?_⟩
  rw [Text.withLineFeeds_of_notMem missing] at read
  exact congrArg compiler.compileFrom read

def nodeKinds (outcome : Except CompileError Tree) : Option (List Kind) :=
  outcome.toOption.map fun tree => tree.walk.map fun below => below.node.kind

def plainPage : Text := "café \x7b\x7b name \x7d\x7d".toList

def brokenPage : Text := "\x7b\x7b first\rlast \x7d\x7d".toList

def pages : Files := .ofTable [
  (.ofText "pages/plain.tpl".toList, .ok plainPage.toUtf8),
  (.ofText "pages/broken.tpl".toList, .ok brokenPage.toUtf8)]

theorem compileFrom_ofFile_pages :
    let plain := Path.ofText "pages/plain.tpl".toList
    let broken := Path.ofText "pages/broken.tpl".toList
    pages.read plain = .ok plainPage.toUtf8 ∧ pages.read broken = .ok brokenPage.toUtf8 ∧
      compileFrom {} (.ofFile pages plain) = compileText {} plainPage plain.toText ∧
      compileFrom {} (.ofFile pages broken) = compileText {} brokenPage.withLineFeeds broken.toText ∧
      nodeKinds (compileFrom {} (.ofFile pages broken)) = some [.root, .text] ∧
      nodeKinds (compileText {} brokenPage broken.toText) = some [.root, .expression] := by
  intro plain broken
  have plainRead : pages.read plain = .ok plainPage.toUtf8 := rfl
  have brokenRead : pages.read broken = .ok brokenPage.toUtf8 := rfl
  have unified := (compileFrom_ofFile {} brokenRead).1
  refine ⟨plainRead, brokenRead, (compileFrom_ofFile {} plainRead).2 (by decide), unified, ?_, ?_⟩
  · rw [unified]
    decide +kernel
  · decide +kernel

end Compiler

end TemplateTree
