import TemplateTree.CommandLine.Run
import TemplateTree.Proofs.Reader
import TemplateTree.Proofs.Settings

/-!
# Listing the search paths

The search paths are the working directory, the paths of the configuration and those of the command line,
in order (`CommandLine.execute_paths`). A configuration has no empty path. The command line may have one,
and then the listing ends without an outcome.
-/

namespace TemplateTree

namespace CommandLine

section

variable {tools : Tools} {files : Files} {workingDirectory : Text} {invocation : Invocation}
  {config : Config}

theorem Invocation.loadConfig_eq (invocation : Invocation) (reader : Yaml.Reader) (files : Files)
    (workingDirectory : Text) : invocation.loadConfig reader files workingDirectory =
      Config.loadWith reader files invocation.configPath (invocation.shownConfig workingDirectory) := by
  unfold loadConfig configPath
  cases invocation.config with
  | some written => rfl
  | none =>
      dsimp only
      rw [Config.loadWith, Config.find?]
      cases files.kindFault? ((Path.ofText []).append Config.fileName) with
      | some cause => rfl
      | none =>
          by_cases stands : files.isFile ((Path.ofText []).append Config.fileName) = true
          · rw [if_pos stands, if_pos stands]
            dsimp only
            rw [Config.loadWith, Files.kindFault?_of_isFile stands, if_pos stands]
          · rw [if_neg stands, if_neg stands]

theorem run_paths (lists : invocation.command = .paths)
    (loaded : invocation.loadConfig tools.readYaml files workingDirectory = .ok config)
    (filled : [] ∉ config.paths) :
    tools.run files workingDirectory invocation =
      if [] ∈ invocation.paths then .error (.searchPath .emptyPath)
      else .ok { status := 0, output := (SearchPaths.workingDirectory ::
        (config.paths ++ invocation.paths).map Text.asDirectory).flatMap (· ++ ['\n']) } := by
  rw [Tools.run, loaded]
  simp only [Config.searchPaths, Invocation.extend, SearchPaths.ofList_eq, List.mem_append, filled,
    false_or, lists]
  by_cases empty : [] ∈ invocation.paths
  · rw [if_pos empty, if_pos empty]
  · rw [if_neg empty, if_neg empty]

end

/-! ## Command lines for listings -/

def pathArgument (path : Text) : Text := '-' :: '-' :: 'p' :: 'a' :: 't' :: 'h' :: '=' :: path

def listingOptions (strict : Bool) (paths : List Text) : List Text :=
  (if strict then ["--strict".toList] else []) ++ paths.map pathArgument

def knownOptions (strict : Bool) (paths : List Text) : List Argument :=
  (if strict then [("--strict".toList, .known .strict "--strict".toList none)] else []) ++
    paths.map fun path =>
      (pathArgument path, .known .path "--path".toList (some { isMarked := true, value := path }))

namespace OptionSpec

variable {options : List OptionSpec} {arguments : List Text} {kinds : List Argument}

theorem cut?_pathArgument (path : Text) :
    (pathArgument path).cut? ['='] = some ("--path".toList, path) := by
  simp [pathArgument, Text.cut?, Text.cutFrom?, Text.dropPrefix?]

theorem kindOf_pathArgument (path : Text) : kindOf ofCommands (pathArgument path) =
    .ok (.known .path "--path".toList (some { isMarked := true, value := path })) := by
  have unnamed : named? ofCommands (pathArgument path) = none := rfl
  have named : named? ofCommands "--path".toList = some .path := rfl
  have cut := cut?_pathArgument path
  rw [pathArgument] at cut unnamed ⊢
  simp only [kindOf, unnamed, cut, Option.bind_some, named]

theorem exists_kindOf_pathArgument (path : Text) :
    ∃ kind, kindOf ofProgram (pathArgument path) = .ok kind := by
  have unnamed : named? ofProgram (pathArgument path) = none := rfl
  have unknown : named? ofProgram "--path".toList = none := rfl
  have cut := cut?_pathArgument path
  have nothing : candidates ofProgram (pathArgument path) = [] := by
    rw [pathArgument] at cut ⊢
    simp only [candidates, cut]
    rfl
  rw [pathArgument] at cut unnamed nothing ⊢
  simp only [kindOf, unnamed, cut, Option.bind_some, unknown, nothing]
  split
  · exact ⟨_, rfl⟩
  · exact ⟨_, rfl⟩

theorem classify_cons {argument : Text} {kind : ArgumentKind} (notSeparator : argument ≠ ['-', '-'])
    (here : kindOf options argument = .ok kind) (behind : classify options arguments = .ok kinds) :
    classify options (argument :: arguments) = .ok ((argument, kind) :: kinds) := by
  rw [classify, if_neg notSeparator, here, behind]
  rfl

theorem pathArgument_ne (path : Text) : pathArgument path ≠ ['-', '-'] := by
  simp [pathArgument]

theorem classify_listingOptions (strict : Bool) (paths : List Text) :
    classify ofCommands (listingOptions strict paths) = .ok (knownOptions strict paths) := by
  have behind : classify ofCommands (listingOptions false paths) = .ok (knownOptions false paths) := by
    induction paths with
    | nil => rfl
    | cons path paths ih => exact classify_cons (pathArgument_ne path) (kindOf_pathArgument path) ih
  cases strict with
  | false => exact behind
  | true => exact classify_cons (by decide) rfl behind

theorem exists_classify_listingOptions (strict : Bool) (paths : List Text) :
    ∃ kinds, classify ofProgram (listingOptions strict paths) = .ok kinds ∧
      kinds.map Prod.fst = listingOptions strict paths := by
  have behind : ∃ kinds, classify ofProgram (listingOptions false paths) = .ok kinds ∧
      kinds.map Prod.fst = listingOptions false paths := by
    induction paths with
    | nil => exact ⟨[], rfl, rfl⟩
    | cons path paths ih =>
        obtain ⟨kinds, behind, same⟩ := ih
        obtain ⟨kind, here⟩ := exists_kindOf_pathArgument path
        exact ⟨_, classify_cons (pathArgument_ne path) here behind, congrArg (pathArgument path :: ·) same⟩
  cases strict with
  | false => exact behind
  | true =>
      obtain ⟨kinds, behind, same⟩ := behind
      exact ⟨_, classify_cons (by decide) rfl behind, congrArg ("--strict".toList :: ·) same⟩

end OptionSpec

theorem Expansion.ofAttached_of_takesValue {option : OptionSpec} (takes : option.takesValue = true)
    (options : List OptionSpec) (isLetter isMarked : Bool) (value : Text) :
    ofAttached options option isLetter isMarked value = .ok { settings := [⟨option, value⟩] } := by
  rw [ofAttached.eq_def, if_pos takes]

namespace Arguments

theorem readFrom_known {options : List OptionSpec} {stops : Setting → Bool} {wanted : Nat}
    {written name : Text} {option : OptionSpec} {attached : Option Attached} {settings : List Setting}
    (expanded : Expansion.ofOption options option name attached = .ok { settings })
    (goesOn : settings.any stops = false) (read : Arguments) (rest : List Argument) :
    readFrom options stops wanted read ((written, .known option name attached) :: rest) =
      readFrom options stops wanted { read with settings := read.settings ++ settings } rest := by
  have asked : List.any ((written, .known option name attached) :: rest) (·.2.isOption) = true := rfl
  rw [readFrom.eq_def, if_pos asked]
  simp only [expanded, bind, Except.bind, goesOn, List.append_nil]
  exact if_neg Bool.false_ne_true

theorem readFrom_paths (read : Arguments) (paths : List Text) :
    readFrom OptionSpec.ofCommands (fun setting => setting.option = OptionSpec.help) 0 read
        (knownOptions false paths) =
      .ok { read with settings := read.settings ++ paths.map (⟨.path, some ·⟩) } := by
  induction paths generalizing read with
  | nil => simp [knownOptions, readFrom, takeValue]
  | cons path paths ih =>
      have expanded : Expansion.ofOption OptionSpec.ofCommands .path "--path".toList
          (some { isMarked := true, value := path }) = .ok { settings := [⟨.path, path⟩] } :=
        Expansion.ofAttached_of_takesValue rfl _ _ _ _
      refine (readFrom_known expanded (by simp; decide) read (knownOptions false paths)).trans ?_
      rw [ih]
      simp

variable {option : OptionSpec} {strict : Bool} {paths : List Text}

def listing (strict : Bool) (paths : List Text) : Arguments where
  settings := (if strict then [{ option := .strict }] else []) ++ paths.map (⟨.path, some ·⟩)

theorem has_listing (other : OptionSpec.path ≠ option) :
    (listing strict paths).has option = (strict && OptionSpec.strict = option) := by
  cases strict <;> simp [has, listing, other]

theorem valuesOf_listing (other : OptionSpec.path ≠ option) :
    (listing strict paths).valuesOf option = [] := by
  cases strict <;> simp [valuesOf, listing, other]

theorem valuesOf_path_listing : (listing strict paths).valuesOf .path = paths := by
  have own : (paths.map fun path => (⟨.path, some path⟩ : Setting)).filterMap (fun setting =>
      if setting.option = .path then setting.value else none) = paths := by
    rw [List.filterMap_map]
    exact List.filterMap_some
  cases strict <;> exact own

theorem toInvocation_listing :
    (listing strict paths).toInvocation .paths = { command := .paths, strict, paths } := by
  rw [toInvocation, valuesOf_path_listing, valuesOf_listing (by decide), has_listing (by decide),
    has_listing (by decide)]
  cases strict <;> rfl

theorem readFrom_listing (strict : Bool) (paths : List Text) :
    readFrom OptionSpec.ofCommands (fun setting => setting.option = OptionSpec.help) 0 {}
        (knownOptions strict paths) = .ok (listing strict paths) := by
  cases strict with
  | false => exact readFrom_paths {} paths
  | true =>
      refine (readFrom_known rfl (by simp; decide) {} (knownOptions false paths)).trans ?_
      exact readFrom_paths _ paths

end Arguments

theorem readCommand_paths {arguments : List Text} {kinds : List Argument} {strict : Bool}
    {paths : List Text} (known : OptionSpec.classify OptionSpec.ofCommands arguments = .ok kinds)
    (read : Arguments.readFrom OptionSpec.ofCommands (fun setting => setting.option = OptionSpec.help) 0
      {} kinds = .ok (.listing strict paths)) :
    readCommand [] "paths".toList arguments = .ok (.perform { command := .paths, strict, paths }) := by
  rw [readCommand, if_neg (by decide), if_neg (by decide), if_pos rfl]
  refine bind_eq_ok.mpr ⟨kinds, by rw [known]; rfl, bind_eq_ok.mpr ⟨.listing strict paths, ?_, ?_⟩⟩
  · rw [read]
    rfl
  · have noHelp : (strict && OptionSpec.strict = OptionSpec.help) = false := Bool.and_false strict
    rw [Arguments.has_listing (by decide), noHelp, ← Arguments.toInvocation_listing]
    rfl

theorem ofArguments_listing (strict : Bool) (paths : List Text) :
    Request.ofArguments ("paths".toList :: listingOptions strict paths) =
      .ok (.perform { command := .paths, strict, paths }) := by
  obtain ⟨kinds, behind, same⟩ := OptionSpec.exists_classify_listingOptions strict paths
  have classified : OptionSpec.classify OptionSpec.ofProgram ("paths".toList :: listingOptions strict paths) =
      .ok (("paths".toList, .plain) :: kinds) := OptionSpec.classify_cons (by decide) rfl behind
  rw [Request.ofArguments, classified]
  change readCommand [] "paths".toList (kinds.map Prod.fst) = _
  rw [same]
  exact readCommand_paths (OptionSpec.classify_listingOptions strict paths)
    (Arguments.readFrom_listing strict paths)

/-! ## Listings -/

/-- Whatever mapping configures the command, if it is accepted then the search paths are written in order,
unless the command line has an empty path: then there is no outcome. -/
theorem execute_paths {tools : Tools} {files : Files} {workingDirectory : Text} {arguments : List Text}
    {invocation : Invocation} {entries : List (Value × Value)} {config : Config}
    (asked : Request.ofArguments arguments = .ok (.perform invocation))
    (lists : invocation.command = .paths)
    (holds : Config.Holds tools.readYaml files invocation.configPath entries)
    (accepted : Config.read entries = .ok config) :
    tools.execute files workingDirectory arguments =
      if [] ∈ invocation.paths then .error (.searchPath .emptyPath)
      else .ok { status := 0, output := (SearchPaths.workingDirectory ::
        (config.paths ++ invocation.paths).map Text.asDirectory).flatMap (· ++ ['\n']) } := by
  have loaded : invocation.loadConfig tools.readYaml files workingDirectory = .ok config := by
    rw [Invocation.loadConfig_eq, Config.loadWith_of_holds holds, accepted]
    rfl
  rw [Tools.execute, asked]
  exact run_paths lists loaded (Config.nil_notMem_of_read accepted)

def themes : Text := "paths: [shared, 'themes\\dark/']\n".toList

def themeEntries : List (Value × Value) :=
  [(.text Config.pathsKey, .sequence [.text "shared".toList, .text "themes\\dark/".toList])]

def themeTools : Tools where
  readYaml text := if text = themes then .ok (.mapping themeEntries) else .error .malformed
  layOut _ := []

def themeFiles : Files := .ofTable [(.ofText Config.fileName, .ok themes.toUtf8)]

theorem execute_paths_backslash :
    let invocation : Invocation := { command := .paths, strict := true, paths := ["a\\b".toList] }
    Request.ofArguments ("paths".toList :: listingOptions true ["a\\b".toList]) =
        .ok (.perform invocation) ∧
      Config.Holds themeTools.readYaml themeFiles invocation.configPath themeEntries ∧
      (∃ config, Config.read themeEntries = .ok config) ∧
      themeTools.execute themeFiles ['/'] ("paths".toList :: listingOptions true ["a\\b".toList]) =
        .ok { status := 0, output := "./\nshared/\nthemes/dark/\na/b/\n".toList } := by
  intro invocation
  have asked := ofArguments_listing true ["a\\b".toList]
  have written : themeFiles.readText invocation.configPath = .ok themes := by
    have stored : themeFiles.read invocation.configPath = .ok themes.toUtf8 := rfl
    rw [Files.readText_of_toUtf8 stored, Text.withLineFeeds_of_notMem (by decide)]
  have parsed : themeTools.readYaml themes = .ok (.mapping themeEntries) := by simp [themeTools]
  have holds : Config.Holds themeTools.readYaml themeFiles invocation.configPath themeEntries :=
    .document rfl written parsed rfl
  have described : Config.ofEntries themeEntries =
      .ok { paths := ["shared".toList, "themes\\dark/".toList] } :=
    Config.ofEntries_eq_ok_iff.mpr ⟨[], rfl, rfl, rfl, Delimiters.ofEntries_nil⟩
  have unmarked : Config.delimitersOf themeEntries = .ok [] := rfl
  have faultless : Config.fault? themeEntries = none := Config.fault?_of_ok unmarked described
  have accepted := Config.read_eq_ok_iff.mpr ⟨faultless, described⟩
  refine ⟨asked, holds, ⟨_, accepted⟩, ?_⟩
  rw [execute_paths asked rfl holds accepted]
  rfl

/-- An empty path on the command line leaves no outcome, although the arguments and the empty mapping are
accepted. -/
theorem execute_paths_empty :
    let invocation : Invocation := { command := .paths, paths := [[]] }
    Request.ofArguments ["paths".toList, "-I".toList, []] = .ok (.perform invocation) ∧
      Config.Holds themeTools.readYaml (.ofTable []) invocation.configPath [] ∧
      Config.read [] = .ok .standard ∧
      ∀ outcome,
        themeTools.execute (.ofTable []) ['/'] ["paths".toList, "-I".toList, []] ≠ .ok outcome := by
  intro invocation
  have asked : Request.ofArguments ["paths".toList, "-I".toList, []] = .ok (.perform invocation) := by
    have known : OptionSpec.classify OptionSpec.ofCommands ["-I".toList, []] =
        .ok [("-I".toList, .known .path "-I".toList none), ([], .plain)] := rfl
    have read : Arguments.readFrom OptionSpec.ofCommands (fun setting => setting.option = OptionSpec.help)
        0 {} [("-I".toList, .known .path "-I".toList none), ([], .plain)] = .ok (.listing false [[]]) := by
      rw [Arguments.readFrom.eq_def]
      exact Arguments.readFrom_paths { settings := [⟨.path, some []⟩] } []
    exact readCommand_paths known read
  refine ⟨asked, .missing rfl rfl, Config.read_nil, fun outcome => ?_⟩
  have loaded : invocation.loadConfig themeTools.readYaml (.ofTable []) ['/'] = .ok .standard := rfl
  rw [Tools.execute, asked]
  change themeTools.run (.ofTable []) ['/'] invocation ≠ _
  rw [run_paths rfl loaded (List.not_mem_nil), if_pos List.mem_cons_self]
  exact nofun

end CommandLine

end TemplateTree
