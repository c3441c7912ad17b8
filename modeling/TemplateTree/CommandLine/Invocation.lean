import TemplateTree.CommandLine.Option
import TemplateTree.Text.Quoted

/-!
What a command line asks for.
-/
namespace TemplateTree.CommandLine

inductive Command where
  | tree (file : Text) (asJson : Bool)
  | tokens (file : Text)
  | paths
deriving DecidableEq

structure Invocation where
  command : Command
  config : Option Text := none
  strict : Bool := false
  paths : List Text := []
  verbose : Bool := false
deriving DecidableEq

inductive Request where
  | perform (invocation : Invocation)
  | showVersion
  | showHelp (program : Text)
deriving DecidableEq

inductive UsageProblem where
  | option (error : OptionError)
  | missing (names : List Text)
  | unknownCommand (written : Text)
  | unrecognized (arguments : List Text)
deriving DecidableEq

structure UsageError where
  program : Text
  problem : UsageProblem
deriving DecidableEq

def programName : Text := "tplc".toList

def commandNames : List Text := ["tree".toList, "tokens".toList, "paths".toList]

def OptionSpec.title (option : OptionSpec) : Text := Text.joined ['/'] option.names

def OptionError.message : OptionError → Text
  | missingValue option =>
      "argument ".toList ++ option.title ++ ": expected one argument".toList
  | needlessValue option value =>
      "argument ".toList ++ option.title ++ ": ignored explicit argument ".toList ++ value.quoted
  | ambiguous written names =>
      "ambiguous option: ".toList ++ written ++ " could match ".toList ++
        Text.joined [',', ' '] names

def UsageProblem.message : UsageProblem → Text
  | option error => error.message
  | missing names =>
      "the following arguments are required: ".toList ++ Text.joined [',', ' '] names
  | unknownCommand written =>
      "argument cmd: invalid choice: ".toList ++ written.quoted ++ " (choose from ".toList ++
        Text.joined [',', ' '] (commandNames.map Text.quoted) ++ [')']
  | unrecognized arguments => "unrecognized arguments: ".toList ++ Text.joined [' '] arguments

def UsageError.message (error : UsageError) : Text :=
  error.program ++ ": error: ".toList ++ error.problem.message

namespace OptionSpec

def help : OptionSpec := { names := ["-h".toList, "--help".toList] }

def version : OptionSpec := { names := ["--version".toList] }

def config : OptionSpec := { names := ["--config".toList], takesValue := true }

def strict : OptionSpec := { names := ["--strict".toList] }

def path : OptionSpec := { names := ["-I".toList, "--path".toList], takesValue := true }

def verbose : OptionSpec := { names := ["-v".toList, "--verbose".toList] }

def json : OptionSpec := { names := ["--json".toList] }

def ofProgram : List OptionSpec := [help, version]

def ofCommands : List OptionSpec := [help, config, strict, path, verbose]

end OptionSpec

namespace Arguments

def has (read : Arguments) (option : OptionSpec) : Bool :=
  read.settings.any (·.option = option)

def valuesOf (read : Arguments) (option : OptionSpec) : List Text :=
  read.settings.filterMap fun setting => if setting.option = option then setting.value else none

/-- The command with what the options set. An empty path of a configuration counts as none. -/
def toInvocation (read : Arguments) (command : Command) : Invocation where
  command
  config := (read.valuesOf .config).getLast?.filter (· ≠ [])
  strict := read.has .strict
  paths := read.valuesOf .path
  verbose := read.has .verbose

end Arguments

/-- Reads the arguments of a command. `extras` are the arguments in front of it that nobody
takes. -/
def readCommand (extras : List Text) (name : Text) (arguments : List Text) :
    Except UsageError Request :=
  let program := programName ++ ' ' :: name
  let fail := fun problem => Except.error { program, problem : UsageError }
  let read (options : List OptionSpec) (wanted : Nat) (make : Arguments → Option Command) :
      Except UsageError Request := do
    let stops := fun (setting : Setting) => setting.option = OptionSpec.help
    let kinds ← (OptionSpec.classify options arguments).mapError fun error =>
      { program, problem := .option error : UsageError }
    let read ← (Arguments.readFrom options stops wanted {} kinds).mapError fun error =>
      { program, problem := .option error : UsageError }
    if read.has .help then return .showHelp program
    match make read with
    | none => fail (.missing ["file".toList])
    | some command =>
        let unknown := extras ++ read.extras
        if unknown = [] then return .perform (read.toInvocation command)
        else .error { program := programName, problem := .unrecognized unknown }
  if name = "tree".toList then
    read (OptionSpec.ofCommands ++ [.json]) 1 fun read =>
      read.values.head?.map fun file => .tree file (read.has .json)
  else if name = "tokens".toList then
    read OptionSpec.ofCommands 1 fun read => read.values.head?.map .tokens
  else if name = "paths".toList then
    read OptionSpec.ofCommands 0 fun _ => some .paths
  else .error { program := programName, problem := .unknownCommand name }

def readProgram (extras : List Text) : List Argument → Except UsageError Request
  | [] => .error { program := programName, problem := .missing ["cmd".toList] }
  | (_, .known option name attached) :: _ =>
      match Expansion.ofOption OptionSpec.ofProgram option name attached with
      | .error error => .error { program := programName, problem := .option error }
      | .ok _ => .ok (if option = .version then .showVersion else .showHelp programName)
  | (written, .unknown) :: rest => readProgram (extras ++ [written]) rest
  | (written, .plain) :: rest => readCommand extras written (rest.map Prod.fst)
  | [(_, .separator)] => .error { program := programName, problem := .missing ["cmd".toList] }
  | (written, .separator) :: _ =>
      .error { program := programName, problem := .unknownCommand written }

def Request.ofArguments (arguments : List Text) : Except UsageError Request :=
  match OptionSpec.classify OptionSpec.ofProgram arguments with
  | .error error => .error { program := programName, problem := .option error }
  | .ok kinds => readProgram [] kinds

end TemplateTree.CommandLine
