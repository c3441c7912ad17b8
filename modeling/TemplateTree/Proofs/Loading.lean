import TemplateTree.Config.File
import TemplateTree.Proofs.Step

/-!
# Configurations from files

A configuration file holds a mapping, and loading the file reads the mapping (`Config.loadWith_of_holds`).
A configuration that was read has no empty path, so that its search paths can be listed.
-/

namespace TemplateTree

namespace SearchPaths

theorem foldlM_add (searched : SearchPaths) (paths : List Text) :
    paths.foldlM add searched =
      if [] ∈ paths then .error .emptyPath
      else .ok ⟨searched.paths ++ paths.map Text.asDirectory⟩ := by
  induction paths generalizing searched with
  | nil => simp [pure, Except.pure]
  | cons path paths ih =>
      rw [List.foldlM_cons, add]
      by_cases empty : path = []
      · simp [empty, bind, Except.bind]
      · simp [empty, bind, Except.bind, ih, Ne.symm empty]

theorem ofList_eq (paths : List Text) :
    ofList paths = if [] ∈ paths then .error .emptyPath
      else .ok ⟨workingDirectory :: paths.map Text.asDirectory⟩ :=
  foldlM_add standard paths

end SearchPaths

theorem Value.nonemptyText?_eq_some_iff {value : Value} {path : Text} :
    value.nonemptyText? = some path ↔ path ≠ [] ∧ value = .text path := by
  constructor
  · intro read
    unfold nonemptyText? at read
    split at read
    · obtain rfl := Option.some.inj read
      exact ⟨List.cons_ne_nil _ _, rfl⟩
    · cases read
  · rintro ⟨filled, rfl⟩
    obtain ⟨c, rest, rfl⟩ := List.exists_cons_of_ne_nil filled
    rfl

theorem Delimiters.ofEntries_nil : ofEntries [] = .ok standard := by
  have unknown : unknownKeys [] = [] := List.mergeSort_nil
  have missing (name : EnclosureName) (enclosure : Enclosure) :
      textsAt [] name enclosure = .ok (enclosure.opener.text, enclosure.closer.text) := rfl
  simp only [ofEntries, missing, unknown, bind, Except.bind]
  rfl

/-! ## Paths of a configuration -/

namespace Config

variable {entries : List (Value × Value)} {config : Config} {paths : List Text}

theorem mapM_nonemptyText?_iff {items : List Value} :
    items.mapM Value.nonemptyText? = some paths ↔ [] ∉ paths ∧ items = paths.map .text := by
  induction items generalizing paths with
  | nil => cases paths <;> simp
  | cons item items ih =>
      rw [List.mapM_cons]
      constructor
      · intro read
        obtain ⟨path, here, read⟩ := Option.bind_eq_some_iff.mp read
        obtain ⟨behind, rest, same⟩ := Option.bind_eq_some_iff.mp read
        obtain rfl := Option.some.inj same
        obtain ⟨filled, rfl⟩ := Value.nonemptyText?_eq_some_iff.mp here
        obtain ⟨behindFilled, rfl⟩ := ih.mp rest
        exact ⟨List.not_mem_cons_of_ne_of_not_mem filled.symm behindFilled, rfl⟩
      · rintro ⟨filled, same⟩
        obtain ⟨path, behind, rfl, rfl, rfl⟩ := List.map_eq_cons_iff.mp same.symm
        obtain ⟨here, behindFilled⟩ := not_or.mp (mt List.mem_cons.mpr filled)
        rw [Value.nonemptyText?_eq_some_iff.mpr ⟨Ne.symm here, rfl⟩, ih.mpr ⟨behindFilled, rfl⟩]
        rfl

theorem nil_notMem_of_pathsOf (described : pathsOf entries = .ok paths) : [] ∉ paths := by
  unfold pathsOf at described
  split at described
  · cases described
    exact List.not_mem_nil
  next value found =>
    split at described
    · cases described
      exact List.not_mem_nil
    next filled =>
      split at described
      next path =>
        cases described
        intro empty
        obtain rfl : path = [] := by simpa using empty
        exact filled rfl
      next items =>
        split at described
        next read =>
          cases described
          exact (mapM_nonemptyText?_iff.mp read).1
        · cases described
      · cases described

theorem ofEntries_eq_ok_iff : ofEntries entries = .ok config ↔ ∃ inner, delimitersOf entries = .ok inner ∧
    strictOf entries = .ok config.strictClosing ∧ pathsOf entries = .ok config.paths ∧
    Delimiters.ofEntries inner = .ok config.delimiters := by
  constructor
  · intro described
    obtain ⟨inner, given, described⟩ := bind_eq_ok.mp described
    obtain ⟨strictClosing, strict, described⟩ := bind_eq_ok.mp described
    obtain ⟨paths, searched, described⟩ := bind_eq_ok.mp described
    obtain ⟨delimiters, marks, described⟩ := bind_eq_ok.mp described
    obtain rfl := Except.ok.inj described
    exact ⟨inner, given, strict, searched, marks⟩
  · rintro ⟨inner, given, strict, searched, marks⟩
    simp only [ofEntries, given, strict, searched, marks, bind, Except.bind]
    rfl

theorem ofEntries_nil : ofEntries [] = .ok standard :=
  ofEntries_eq_ok_iff.mpr ⟨[], rfl, rfl, rfl, Delimiters.ofEntries_nil⟩

theorem read_eq_ok_iff :
    read entries = .ok config ↔ fault? entries = none ∧ ofEntries entries = .ok config := by
  unfold read
  cases fault? entries with
  | some fault => simp
  | none =>
      cases ofEntries entries with
      | error refused => exact iff_of_false nofun nofun
      | ok found =>
          constructor
          · exact fun same => ⟨rfl, congrArg Except.ok (Except.ok.inj same)⟩
          · exact fun ⟨_, same⟩ => congrArg Except.ok (Except.ok.inj same)

theorem read_nil : read [] = .ok standard := by
  refine read_eq_ok_iff.mpr ⟨?_, ofEntries_nil⟩
  rw [fault?, ofEntries_nil]
  rfl

theorem nil_notMem_of_read (accepted : read entries = .ok config) : [] ∉ config.paths := by
  obtain ⟨inner, -, -, searched, -⟩ := ofEntries_eq_ok_iff.mp (read_eq_ok_iff.mp accepted).2
  exact nil_notMem_of_pathsOf searched

/-! ## Files -/

variable {reader : Yaml.Reader} {files : Files} {path : Path} {value : Value}

/-- The mapping of a document; a document that counts as missing has the empty one. -/
def mapping? (value : Value) : Option (List (Value × Value)) :=
  if value.isFalsy then some [] else (valueInParts value).entries?

theorem ofValue_of_mapping? (mapping : mapping? value = some entries) (shown : Text) :
    ofValue shown value = (read entries).mapError (LoadError.inFile shown) := by
  unfold mapping? at mapping
  unfold ofValue
  split at mapping
  next falsy =>
    obtain rfl := Option.some.inj mapping
    rw [if_pos falsy, read_nil]
    rfl
  next filled =>
    rw [if_neg filled, mapping]
    dsimp only
    rw [read]
    cases fault? entries with
    | some fault => rfl
    | none => cases ofEntries entries <;> rfl

/-- The mapping that the file at a path holds as its reader reads it. If there is no file, it is empty. -/
inductive Holds (reader : Yaml.Reader) (files : Files) (path : Path) : List (Value × Value) → Prop where
  | document {text : Text} {value : Value} {entries : List (Value × Value)}
      (stands : files.isFile path = true) (written : files.readText path = .ok text)
      (parsed : reader text = .ok value) (mapping : mapping? value = some entries) :
      Holds reader files path entries
  | missing (told : files.kindFault? path = none) (absent : files.isFile path = false) :
      Holds reader files path []

theorem loadWith_of_holds (holds : Holds reader files path entries) (shown : Text) :
    loadWith reader files path shown = (read entries).mapError (LoadError.inFile shown) := by
  cases holds with
  | document stands written parsed mapping =>
      rw [loadWith, Files.kindFault?_of_isFile stands]
      dsimp only
      rw [if_pos stands, written]
      dsimp only
      rw [ofText, parsed]
      exact ofValue_of_mapping? mapping shown
  | missing told absent =>
      rw [loadWith, told]
      dsimp only
      rw [if_neg (Bool.eq_false_iff.mp absent), read_nil]
      rfl

end Config

end TemplateTree
