import TemplateTree.Proofs.JsonValue
import TemplateTree.Proofs.Loading

/-!
# Configurations from mappings

Which mappings of JSON values describe a configuration, and what reading the others leaves behind. Values
that are shown in a message or become delimiters have to be written, and a whole number may be too long
for that.
-/

namespace TemplateTree

/-! ## Delimiters -/

theorem Enclosure.ofTexts_eq_ok_iff {name : EnclosureName} {opener closer : Text} {enclosure : Enclosure} :
    ofTexts name opener closer = .ok enclosure ↔
      opener = enclosure.opener.text ∧ closer = enclosure.closer.text := by
  obtain ⟨⟨first, filled⟩, ⟨second, filled'⟩⟩ := enclosure
  unfold ofTexts Mark.ofText?
  by_cases empty : opener = []
  · simp [empty, filled.symm]
  · by_cases empty' : closer = []
    · simp [empty, empty', filled'.symm]
    · simp [empty, empty']

theorem Enclosure.ofTexts_error {name : EnclosureName} {opener closer : Text} {error : ConfigError}
    (failed : ofTexts name opener closer = .error error) : ∃ name, error = .emptyMark name := by
  unfold ofTexts at failed
  split at failed
  · cases failed
  · exact ⟨_, (Except.error.inj failed).symm⟩
  · exact ⟨_, (Except.error.inj failed).symm⟩

namespace Delimiters

variable {entries : List (Value × Value)} {delimiters : Delimiters} {name : EnclosureName}
  {standard : Enclosure} {error : ConfigError}

theorem textsAt_error (failed : textsAt entries name standard = .error error) :
    ∃ value, error = .notPair name.key value ∧ Value.lookup? entries name.key = some value := by
  unfold textsAt at failed
  split at failed
  · cases failed
  · cases failed
  · cases failed
  next value _ _ found => exact ⟨value, (Except.error.inj failed).symm, found⟩

theorem ofEntries_eq_ok_iff : ofEntries entries = .ok delimiters ↔
    unknownKeys entries = [] ∧
    textsAt entries .comment Delimiters.standard.comment =
      .ok (delimiters.comment.opener.text, delimiters.comment.closer.text) ∧
    textsAt entries .variableTag Delimiters.standard.variableTag =
      .ok (delimiters.variableTag.opener.text, delimiters.variableTag.closer.text) ∧
    textsAt entries .blockTag Delimiters.standard.blockTag =
      .ok (delimiters.blockTag.opener.text, delimiters.blockTag.closer.text) := by
  constructor
  · intro described
    obtain ⟨comment, first, described⟩ := bind_eq_ok.mp described
    obtain ⟨variableTag, second, described⟩ := bind_eq_ok.mp described
    obtain ⟨blockTag, third, described⟩ := bind_eq_ok.mp described
    split at described
    · cases described
    next known =>
      obtain ⟨comment', made, described⟩ := bind_eq_ok.mp described
      obtain ⟨variableTag', made', described⟩ := bind_eq_ok.mp described
      obtain ⟨blockTag', made'', described⟩ := bind_eq_ok.mp described
      obtain rfl := Except.ok.inj described
      obtain ⟨opener, closer⟩ := Enclosure.ofTexts_eq_ok_iff.mp made
      obtain ⟨opener', closer'⟩ := Enclosure.ofTexts_eq_ok_iff.mp made'
      obtain ⟨opener'', closer''⟩ := Enclosure.ofTexts_eq_ok_iff.mp made''
      rw [← opener, ← closer, ← opener', ← closer', ← opener'', ← closer'']
      exact ⟨Classical.not_not.mp known, first, second, third⟩
  · rintro ⟨known, first, second, third⟩
    have made (name : EnclosureName) (enclosure : Enclosure) :
        Enclosure.ofTexts name enclosure.opener.text enclosure.closer.text = .ok enclosure :=
      Enclosure.ofTexts_eq_ok_iff.mpr ⟨rfl, rfl⟩
    simp only [ofEntries, first, second, third, known, made, bind, Except.bind]
    rfl

theorem ofEntries_error (failed : ofEntries entries = .error error) :
    (∃ key ∈ keys, ∃ value, error = .notPair key value ∧ Value.lookup? entries key = some value) ∨
      error = .unknownKeys (unknownKeys entries) ∨ ∃ name, error = .emptyMark name := by
  have pair {name : EnclosureName} {standard : Enclosure} (known : name.key ∈ keys)
      (failed : textsAt entries name standard = .error error) : ∃ key ∈ keys, ∃ value,
        error = .notPair key value ∧ Value.lookup? entries key = some value := by
    obtain ⟨value, same, found⟩ := textsAt_error failed
    exact ⟨name.key, known, value, same, found⟩
  rcases bind_eq_error.mp failed with failed | ⟨comment, -, failed⟩
  · exact .inl (pair (by decide) failed)
  rcases bind_eq_error.mp failed with failed | ⟨variableTag, -, failed⟩
  · exact .inl (pair (by decide) failed)
  rcases bind_eq_error.mp failed with failed | ⟨blockTag, -, failed⟩
  · exact .inl (pair (by decide) failed)
  split at failed
  · exact .inr (.inl (Except.error.inj failed).symm)
  rcases bind_eq_error.mp failed with failed | ⟨comment, -, failed⟩
  · exact .inr (.inr (Enclosure.ofTexts_error failed))
  rcases bind_eq_error.mp failed with failed | ⟨variableTag, -, failed⟩
  · exact .inr (.inr (Enclosure.ofTexts_error failed))
  rcases bind_eq_error.mp failed with failed | ⟨blockTag, -, failed⟩
  · exact .inr (.inr (Enclosure.ofTexts_error failed))
  · cases failed

theorem unknownKeys_eq_nil_iff :
    unknownKeys entries = [] ↔ ∀ entry ∈ entries, ∃ key ∈ keys, entry.1 = .text key := by
  have sorted : unknownKeys entries = [] ↔ otherKeys entries = [] := by
    rw [← List.length_eq_zero_iff, unknownKeys, List.length_mergeSort, List.length_eq_zero_iff]
  rw [sorted, otherKeys, List.filter_eq_nil_iff]
  simp [Value.isSameKey_text_iff]

theorem exists_textsAt_iff (json : ∀ entry ∈ entries, entry.2.IsJson) :
    (∃ enclosure : Enclosure,
        textsAt entries name standard = .ok (enclosure.opener.text, enclosure.closer.text)) ↔
      ∀ value, Value.lookup? entries name.key = some value → value.IsPair := by
  constructor
  · rintro ⟨⟨opener, closer⟩, given⟩ value found
    have inJson := json _ (Value.mem_of_lookup? found)
    unfold textsAt at given
    split at given
    next missing =>
      rw [missing] at found
      cases found
    next first second pair =>
      obtain rfl := Option.some.inj (found.symm.trans pair)
      obtain ⟨same, same'⟩ := Prod.mk.inj (Except.ok.inj given)
      exact ⟨first, second, rfl, same ▸ opener.text_ne_nil, same' ▸ closer.text_ne_nil⟩
    next pair =>
      obtain rfl := Option.some.inj (found.symm.trans pair)
      cases inJson
    · cases given
  · intro pairs
    unfold textsAt
    cases found : Value.lookup? entries name.key with
    | none => exact ⟨standard, rfl⟩
    | some value =>
        obtain ⟨opener, closer, rfl, filled, filled'⟩ := pairs value found
        exact ⟨⟨⟨opener.toText, filled⟩, ⟨closer.toText, filled'⟩⟩, rfl⟩

structure IsDescription (entries : List (Value × Value)) : Prop where
  known : ∀ entry ∈ entries, ∃ key ∈ keys, entry.1 = .text key
  pairs : ∀ key ∈ keys, ∀ value, Value.lookup? entries key = some value →
    value.IsPair ∧ value.isUnwritable = false

theorem isDescription_iff (json : ∀ entry ∈ entries, entry.2.IsJson) :
    IsDescription entries ↔ (∃ delimiters, ofEntries entries = .ok delimiters) ∧
      Value.writingFault? (pairs entries keys) = none := by
  have written : Value.writingFault? (pairs entries keys) = none ↔
      ∀ key ∈ keys, ∀ value, Value.lookup? entries key = some value → value.isUnwritable = false := by
    rw [Value.writingFault?_eq_none]
    simp only [pairs, List.mem_filterMap]
    exact ⟨fun all key member value found => all value ⟨key, member, found⟩,
      fun all value ⟨key, member, found⟩ => all key member value found⟩
  rw [written]
  constructor
  · rintro ⟨known, pairs⟩
    have given (name : EnclosureName) (standard : Enclosure) (member : name.key ∈ keys) :
        ∃ enclosure : Enclosure,
          textsAt entries name standard = .ok (enclosure.opener.text, enclosure.closer.text) :=
      (exists_textsAt_iff json).mpr fun value found => (pairs name.key member value found).1
    obtain ⟨comment, first⟩ := given .comment Delimiters.standard.comment (by decide)
    obtain ⟨variableTag, second⟩ := given .variableTag Delimiters.standard.variableTag (by decide)
    obtain ⟨blockTag, third⟩ := given .blockTag Delimiters.standard.blockTag (by decide)
    refine ⟨⟨⟨comment, variableTag, blockTag⟩, ?_⟩, fun key member value found =>
      (pairs key member value found).2⟩
    exact ofEntries_eq_ok_iff.mpr ⟨unknownKeys_eq_nil_iff.mpr known, first, second, third⟩
  · rintro ⟨⟨delimiters, described⟩, written⟩
    obtain ⟨known, first, second, third⟩ := ofEntries_eq_ok_iff.mp described
    refine ⟨unknownKeys_eq_nil_iff.mp known, fun key member value found =>
      ⟨?_, written key member value found⟩⟩
    -- which of the three keys it is decides which delimiters were read
    have cases : key = EnclosureName.comment.key ∨ key = EnclosureName.variableTag.key ∨
        key = EnclosureName.blockTag.key := by
      simpa [keys] using member
    rcases cases with rfl | rfl | rfl
    · exact (exists_textsAt_iff json).mp ⟨_, first⟩ value found
    · exact (exists_textsAt_iff json).mp ⟨_, second⟩ value found
    · exact (exists_textsAt_iff json).mp ⟨_, third⟩ value found

theorem isDescription_nil : IsDescription [] := ⟨List.forall_mem_nil _, fun _ _ _ found => nomatch found⟩

theorem ofEntries_toEntries (delimiters : Delimiters) : ofEntries delimiters.toEntries = .ok delimiters := by
  have known : ∀ entry ∈ delimiters.toEntries, ∃ key ∈ keys, entry.1 = .text key := by
    simp [toEntries, keys]
  exact ofEntries_eq_ok_iff.mpr ⟨unknownKeys_eq_nil_iff.mpr known, rfl, rfl, rfl⟩

theorem writingFault?_toEntries (delimiters : Delimiters) :
    Value.writingFault? (pairs delimiters.toEntries keys) = none := rfl

end Delimiters

namespace Config

variable {entries inner : List (Value × Value)} {config : Config} {error : ConfigError}

/-- The mapping describes a configuration: each of its keys that has a meaning has a value for it. -/
structure IsDescription (entries : List (Value × Value)) : Prop where
  delimiters : ∀ value, Value.lookup? entries delimitersKey = some value →
    value.isFalsy = true ∨ ∃ inner, value = .mapping inner ∧ Delimiters.IsDescription inner
  strict : ∀ value, Value.lookup? entries strictKey = some value → ∃ strict, value = .boolean strict
  paths : ∀ value, Value.lookup? entries pathsKey = some value →
    value.isFalsy = true ∨ (∃ path, path ≠ [] ∧ value = .text path) ∨
      ∃ paths : List Text, [] ∉ paths ∧ value = .sequence (paths.map .text)

theorem delimitersOf_error (failed : delimitersOf entries = .error error) :
    error = .delimitersNotMapping := by
  unfold delimitersOf at failed
  split at failed
  · cases failed
  · split at failed
    · cases failed
    · split at failed
      · cases failed
      · exact (Except.error.inj failed).symm

theorem strictOf_error (failed : strictOf entries = .error error) :
    ∃ value, error = .strictNotBoolean value ∧ Value.lookup? entries strictKey = some value := by
  unfold strictOf at failed
  split at failed
  · cases failed
  · cases failed
  next value _ found => exact ⟨value, (Except.error.inj failed).symm, found⟩

theorem pathsOf_error (failed : pathsOf entries = .error error) : error = .pathsNotTexts := by
  unfold pathsOf at failed
  split at failed
  · cases failed
  · split at failed
    · cases failed
    · split at failed
      · cases failed
      · split at failed
        · cases failed
        · exact (Except.error.inj failed).symm
      · exact (Except.error.inj failed).symm

theorem ofEntries_error (failed : ofEntries entries = .error error) :
    error = .delimitersNotMapping ∨
    (∃ value, error = .strictNotBoolean value ∧ Value.lookup? entries strictKey = some value) ∨
    error = .pathsNotTexts ∨
    ∃ inner, delimitersOf entries = .ok inner ∧ Delimiters.ofEntries inner = .error error := by
  rcases bind_eq_error.mp failed with failed | ⟨inner, given, failed⟩
  · exact .inl (delimitersOf_error failed)
  rcases bind_eq_error.mp failed with failed | ⟨strict, -, failed⟩
  · exact .inr (.inl (strictOf_error failed))
  rcases bind_eq_error.mp failed with failed | ⟨paths, -, failed⟩
  · exact .inr (.inr (.inl (pathsOf_error failed)))
  rcases bind_eq_error.mp failed with failed | ⟨delimiters, -, failed⟩
  · exact .inr (.inr (.inr ⟨inner, given, failed⟩))
  · cases failed

/-! ## What the keys may have -/

theorem exists_strictOf_iff : (∃ strict, strictOf entries = .ok strict) ↔
    ∀ value, Value.lookup? entries strictKey = some value → ∃ strict, value = .boolean strict := by
  unfold strictOf
  cases found : Value.lookup? entries strictKey with
  | none => simp
  | some value => cases value <;> simp

theorem exists_pathsOf_iff : (∃ paths, pathsOf entries = .ok paths) ↔
    ∀ value, Value.lookup? entries pathsKey = some value → value.isFalsy = true ∨
      (∃ path, path ≠ [] ∧ value = .text path) ∨
      ∃ paths : List Text, [] ∉ paths ∧ value = .sequence (paths.map .text) := by
  unfold pathsOf
  cases found : Value.lookup? entries pathsKey with
  | none => simp
  | some value =>
      simp only [Option.some.injEq, forall_eq']
      by_cases falsy : value.isFalsy = true
      · simp [falsy]
      · cases value with
        | text path =>
            have filled : path ≠ [] := by
              rintro rfl
              exact falsy rfl
            simp [falsy, filled]
        | sequence items =>
            cases read : items.mapM Value.nonemptyText? with
            | some paths =>
                have given := mapM_nonemptyText?_iff.mp read
                simp only [falsy, read]
                exact iff_of_true ⟨paths, rfl⟩ (.inr (.inr ⟨paths, given.1, congrArg _ given.2⟩))
            | none =>
                simp only [falsy, read]
                refine iff_of_false nofun ?_
                rintro (_ | ⟨path, -, same⟩ | ⟨paths, filled, same⟩)
                · contradiction
                · cases same
                · obtain rfl := Value.sequence.inj same
                  rw [mapM_nonemptyText?_iff.mpr ⟨filled, rfl⟩] at read
                  cases read
        | _ => simp [falsy]

theorem exists_delimitersOf_iff {P : List (Value × Value) → Prop} (empty : P [])
    (json : ∀ entry ∈ entries, entry.2.IsJson) : (∃ inner, delimitersOf entries = .ok inner ∧ P inner) ↔
      ∀ value, Value.lookup? entries delimitersKey = some value →
        value.isFalsy = true ∨ ∃ inner, value = .mapping inner ∧ P inner := by
  unfold delimitersOf
  cases found : Value.lookup? entries delimitersKey with
  | none => simp [empty]
  | some value =>
      simp only [Option.some.injEq, forall_eq']
      by_cases falsy : value.isFalsy = true
      · simp [falsy, empty]
      · have inJson := json _ (Value.mem_of_lookup? found)
        cases inJson <;> simp [falsy, Value.entries?]

/-! ## Faults -/

def Shows (entries : List (Value × Value)) (value : Value) : Prop :=
  Value.lookup? entries strictKey = some value ∨
    ∃ inner, Value.lookup? entries delimitersKey = some (.mapping inner) ∧
      ∃ key ∈ Delimiters.keys, Value.lookup? inner key = some value

theorem delimitersOf_json (json : ∀ entry ∈ entries, entry.2.IsJson)
    (given : delimitersOf entries = .ok inner) : (Value.mapping inner).IsJson ∧
      ∀ key ∈ Delimiters.keys, ∀ value, Value.lookup? inner key = some value → Shows entries value := by
  have missing (empty : inner = []) : (Value.mapping inner).IsJson ∧
      ∀ key ∈ Delimiters.keys, ∀ value, Value.lookup? inner key = some value → Shows entries value := by
    subst empty
    exact ⟨.mapping (List.forall_mem_nil _) (List.forall_mem_nil _), fun _ _ _ found => nomatch found⟩
  unfold delimitersOf at given
  split at given
  · exact missing (Except.ok.inj given).symm
  next value found =>
    split at given
    · exact missing (Except.ok.inj given).symm
    · have inJson := json _ (Value.mem_of_lookup? found)
      cases inJson with
      | mapping named values =>
          obtain rfl := Except.ok.inj given
          exact ⟨.mapping named values, fun key known value stored => .inr ⟨_, found, key, known, stored⟩⟩
      | _ => cases given

theorem fault?_eq_some (json : ∀ entry ∈ entries, entry.2.IsJson) {fault : ValueFault}
    (faulty : fault? entries = some fault) :
    fault = .integerUnwritable ∧ ∃ value, Shows entries value ∧ value.isUnwritable = true := by
  have told {values : List Value} (shown : ∀ value ∈ values, Shows entries value)
      (faulty : Value.writingFault? values = some fault) :
      fault = .integerUnwritable ∧ ∃ value, Shows entries value ∧ value.isUnwritable = true := by
    obtain ⟨same, value, member, unwritable⟩ := Value.writingFault?_eq_some faulty
    exact ⟨same, value, shown value member, unwritable⟩
  have pairs {names : List Text} (known : ∀ name ∈ names, name ∈ Delimiters.keys) {inner}
      (given : delimitersOf entries = .ok inner) :
      ∀ value ∈ Delimiters.pairs inner names, Shows entries value := by
    intro value member
    obtain ⟨name, stored, found⟩ := List.mem_filterMap.mp member
    exact (delimitersOf_json json given).2 name (known name stored) value found
  unfold fault? at faulty
  cases accepted : ofEntries entries with
  | ok config =>
      obtain ⟨inner, given, -⟩ := ofEntries_eq_ok_iff.mp accepted
      rw [accepted, given] at faulty
      exact told (pairs (fun _ known => known) given) faulty
  | error error =>
      rw [accepted] at faulty
      -- what was written before the error depends on the key at which reading stopped
      rcases ofEntries_error accepted with rfl | ⟨value, rfl, found⟩ | rfl | ⟨inner, given, failed⟩
      · cases faulty
      · exact told (List.forall_mem_singleton.mpr (.inl found)) faulty
      · cases faulty
      · rw [given] at faulty
        obtain ⟨inJson, shown⟩ := delimitersOf_json json given
        rcases Delimiters.ofEntries_error failed with ⟨key, known, value, rfl, found⟩ | rfl | ⟨name, rfl⟩
        · refine told (fun other member => ?_) faulty
          rcases List.mem_append.mp member with member | member
          · exact pairs (fun name before => List.takeWhile_subset _ before) given other member
          · obtain rfl := List.mem_singleton.mp member
            exact shown key known other found
        · dsimp only [Except.toOption, Option.getD_some] at faulty
          rw [Value.keyFault?_eq_none inJson.named, Option.or_none] at faulty
          exact told (pairs (fun _ known => known) given) faulty
        · exact told (pairs (fun _ known => known) given) faulty

theorem fault?_of_ok (given : delimitersOf entries = .ok inner) (described : ofEntries entries = .ok config) :
    fault? entries = Value.writingFault? (Delimiters.pairs inner Delimiters.keys) := by
  rw [fault?, described, given]
  rfl

theorem exists_read_iff (json : ∀ entry ∈ entries, entry.2.IsJson) :
    (∃ config, read entries = .ok config) ↔ IsDescription entries := by
  have accepted : (∃ config, read entries = .ok config) ↔
      (∃ inner, delimitersOf entries = .ok inner ∧ Delimiters.IsDescription inner) ∧
        (∃ strict, strictOf entries = .ok strict) ∧ ∃ paths, pathsOf entries = .ok paths := by
    have inJson {inner : List (Value × Value)} (given : delimitersOf entries = .ok inner) :
        ∀ entry ∈ inner, entry.2.IsJson := (delimitersOf_json json given).1.values
    constructor
    · rintro ⟨config, accepted⟩
      obtain ⟨faultless, described⟩ := read_eq_ok_iff.mp accepted
      obtain ⟨inner, given, strict, searched, marks⟩ := ofEntries_eq_ok_iff.mp described
      rw [fault?_of_ok given described] at faultless
      exact ⟨⟨inner, given, (Delimiters.isDescription_iff (inJson given)).mpr ⟨⟨_, marks⟩, faultless⟩⟩,
        ⟨_, strict⟩, ⟨_, searched⟩⟩
    · rintro ⟨⟨inner, given, description⟩, ⟨strict, stricter⟩, ⟨paths, searched⟩⟩
      obtain ⟨⟨delimiters, marks⟩, faultless⟩ := (Delimiters.isDescription_iff (inJson given)).mp description
      have described : ofEntries entries = .ok ⟨delimiters, strict, paths⟩ :=
        ofEntries_eq_ok_iff.mpr ⟨inner, given, stricter, searched, marks⟩
      exact ⟨_, read_eq_ok_iff.mpr ⟨by rw [fault?_of_ok given described, faultless], described⟩⟩
  rw [accepted, exists_delimitersOf_iff Delimiters.isDescription_nil json, exists_strictOf_iff,
    exists_pathsOf_iff]
  constructor
  · exact fun ⟨delimiters, strict, paths⟩ => ⟨delimiters, strict, paths⟩
  · exact fun ⟨delimiters, strict, paths⟩ => ⟨delimiters, strict, paths⟩

theorem read_error (json : ∀ entry ∈ entries, entry.2.IsJson) {error : LoadError}
    (failed : read entries = .error error) : (∃ refused, error = .refused refused) ∨
      error = .faulty .integerUnwritable ∧ ∃ value, Shows entries value ∧ value.isUnwritable = true := by
  unfold read at failed
  split at failed
  next fault faulty =>
    obtain ⟨rfl, unwritable⟩ := fault?_eq_some json faulty
    exact .inr ⟨(Except.error.inj failed).symm, unwritable⟩
  · cases described : ofEntries entries with
    | ok config =>
        rw [described] at failed
        cases failed
    | error refused =>
        rw [described] at failed
        exact .inl ⟨refused, (Except.error.inj failed).symm⟩

/-! ## Configuration files -/

theorem pairInParts_eq {value : Value} (json : value.IsJson) : pairInParts value = value := by
  unfold pairInParts
  split
  · exact json.inParts_eq
  · rfl

theorem valueInParts_eq {value : Value} (json : value.IsJson) : valueInParts value = value := by
  rw [valueInParts, json.inParts_eq]
  refine json.mapEntries_eq fun key value json => ?_
  split
  · rw [json.inParts_eq]
    exact json.mapEntries_eq fun _ _ json => pairInParts_eq json
  · rfl

theorem ofValue_eq (json : (Value.mapping entries).IsJson) (path : Text) :
    ofValue path (.mapping entries) = (read entries).mapError (LoadError.inFile path) := by
  refine ofValue_of_mapping? ?_ path
  rw [mapping?, valueInParts_eq json]
  cases entries <;> rfl

/-! ## Round trips -/

theorem ofEntries_toEntries (filled : [] ∉ config.paths) : ofEntries config.toEntries = .ok config := by
  have searched : pathsOf config.toEntries = .ok config.paths := by
    have found : Value.lookup? config.toEntries pathsKey = some (.sequence (config.paths.map .text)) := rfl
    rw [pathsOf, found]
    dsimp only
    rw [mapM_nonemptyText?_iff.mpr ⟨filled, rfl⟩]
    cases config.paths <;> rfl
  exact ofEntries_eq_ok_iff.mpr ⟨config.delimiters.toEntries, rfl, rfl, searched,
    config.delimiters.ofEntries_toEntries⟩

theorem read_toEntries (filled : [] ∉ config.paths) : read config.toEntries = .ok config := by
  have described := ofEntries_toEntries filled
  refine read_eq_ok_iff.mpr ⟨?_, described⟩
  rw [fault?, described]
  rfl

end Config

theorem Text.asDirectory_directory (path : Text) :
    path.asDirectory.getLast? = some '/' ∧ '\\' ∉ path.asDirectory := by
  have slashed : '\\' ∉ path.map fun c => if c = '\\' then '/' else c := by
    intro member
    obtain ⟨c, -, same⟩ := List.mem_map.mp member
    split at same
    · cases same
    next other => exact other same
  unfold asDirectory
  dsimp only
  split
  next last => exact ⟨last, slashed⟩
  · simp [slashed]

/-- A mapping of JSON values with texts as keys is read exactly if it describes a configuration. Else it is
refused, unless a whole number that is too long has to be written. A configuration that was read is read
back, and its search paths are directories. -/
theorem Config.read_json {entries : List (Value × Value)} (json : (Value.mapping entries).IsJson) :
    (∀ path, ofValue path (.mapping entries) = (read entries).mapError (LoadError.inFile path)) ∧
    ((∃ config, read entries = .ok config) ↔ IsDescription entries) ∧
    (∀ error, read entries = .error error → (∃ refused, error = .refused refused) ∨
      error = .faulty .integerUnwritable ∧ ∃ value, Shows entries value ∧ value.isUnwritable = true) ∧
    (∀ config, read entries = .ok config → read config.toEntries = .ok config ∧
      ∃ searched, config.searchPaths = .ok searched ∧
        searched.paths = SearchPaths.workingDirectory :: config.paths.map Text.asDirectory ∧
        ∀ path ∈ searched.paths, path.getLast? = some '/' ∧ '\\' ∉ path) ∧
    ∀ delimiters : Delimiters, Delimiters.ofEntries delimiters.toEntries = .ok delimiters ∧
      Value.writingFault? (Delimiters.pairs delimiters.toEntries Delimiters.keys) = none := by
  refine ⟨ofValue_eq json, exists_read_iff json.values, fun error => read_error json.values,
    fun config accepted => ?_,
    fun delimiters => ⟨delimiters.ofEntries_toEntries, delimiters.writingFault?_toEntries⟩⟩
  have filled : [] ∉ config.paths := nil_notMem_of_read accepted
  refine ⟨read_toEntries filled, _, ?_, rfl, ?_⟩
  · rw [searchPaths, SearchPaths.ofList_eq, if_neg filled]
  · refine List.forall_mem_cons.mpr ⟨by decide, List.forall_mem_map.mpr fun path _ => ?_⟩
    exact path.asDirectory_directory

theorem Config.read_json_numbers :
    let marks : List (Value × Value) :=
      [(.text EnclosureName.variableTag.key, .sequence [.integer 0, .sequence []])]
    let entries : List (Value × Value) :=
      [(.text pathsKey, .text ['a', '\\']), (.text delimitersKey, .mapping marks), (.text [], .null)]
    (Value.mapping entries).IsJson ∧
      ∃ config, read entries = .ok config ∧ read config.toEntries = .ok config := by
  intro marks entries
  have marksInJson : (Value.mapping marks).IsJson := by
    refine .mapping (by simp [marks]) (List.forall_mem_singleton.mpr (.sequence ?_))
    simp [Value.IsJson.integer, Value.IsJson.sequence]
  have json : (Value.mapping entries).IsJson := by
    refine .mapping (by simp [entries]) ?_
    simp [entries, Value.IsJson.text, Value.IsJson.null, marksInJson]
  have pairs : Delimiters.IsDescription marks := by
    refine ⟨List.forall_mem_singleton.mpr ⟨_, by decide, rfl⟩, fun key known value found => ?_⟩
    obtain rfl : key = EnclosureName.variableTag.key := by
      have stored := List.mem_singleton.mp (Value.mem_of_lookup? found)
      exact Value.text.inj (Prod.mk.inj stored).1
    obtain rfl := Option.some.inj found
    exact ⟨⟨.integer 0, .sequence [], rfl, by decide, by decide⟩, by decide⟩
  have description : IsDescription entries := by
    refine ⟨fun value found => ?_, fun value found => ?_, fun value found => ?_⟩
    · obtain rfl := Option.some.inj found
      exact .inr ⟨marks, rfl, pairs⟩
    · cases found
    · obtain rfl := Option.some.inj found
      exact .inr (.inl ⟨_, List.cons_ne_nil _ _, rfl⟩)
  obtain ⟨-, accepted, -, kept, -⟩ := read_json json
  obtain ⟨config, read⟩ := accepted.mpr description
  exact ⟨json, config, read, (kept config read).1⟩

/-- A number that is one and 3600 zeros in base sixteen stands in the place of a boolean: the message that
tells so cannot be written, and the mapping is not refused. -/
theorem Config.read_json_overlong :
    let entries : List (Value × Value) := [(.text strictKey, .integer ((16 ^ 36) ^ 100 : Nat))]
    (Value.mapping entries).IsJson ∧ ¬ IsDescription entries ∧
      (∀ refused, read entries ≠ .error (.refused refused)) ∧
      ∀ path, ofValue path (.mapping entries) = .error (.faulty .integerUnwritable) := by
  have large : 10 ^ ValueFault.digitLimit ≤ (16 ^ 36) ^ 100 := by
    have limit : ValueFault.digitLimit = 43 * 100 := rfl
    have bound (k : Nat) : 10 ^ (43 * k) ≤ (16 ^ 36) ^ k := by
      rw [Nat.pow_mul]
      exact Nat.pow_le_pow_left (by decide) k
    rw [limit]
    exact bound 100
  generalize (16 ^ 36) ^ 100 = n at large
  intro entries
  have unwritable : (Value.integer n).isUnwritable = true := (Value.isUnwritable_integer_iff n).mpr large
  have faulty : fault? entries = Value.writingFault? [.integer n] := rfl
  have failed : read entries = .error (.faulty .integerUnwritable) := by
    rw [read, faulty, Value.writingFault?, List.any_cons, unwritable]
    rfl
  have json : (Value.mapping entries).IsJson :=
    .mapping (by simp [entries]) (List.forall_mem_singleton.mpr (.integer n))
  refine ⟨json, fun description => ?_, fun refused same => ?_, fun path => ?_⟩
  · obtain ⟨strict, same⟩ := description.strict (.integer n) rfl
    cases same
  · cases failed.symm.trans same
  · rw [ofValue_eq json, failed]
    rfl

end TemplateTree
