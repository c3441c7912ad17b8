import TemplateTree.CommandLine.Invocation
import TemplateTree.Config.File
import TemplateTree.Listing
import TemplateTree.Reader
import TemplateTree.Report

/-!
Running commands on files. A run ends with a status and what it writes; problems of a template, a
configuration or a file are messages. Three problems are none of these and end a run without an
outcome: an empty search path, a number with too many digits, and a value that does not exist.
-/
namespace TemplateTree.CommandLine

/-- What comes from elsewhere: the reader of configuration documents, and the layout of reports. -/
structure Tools where
  readYaml : Yaml.Reader
  layOut : Json → Text

structure Outcome where
  status : Nat
  output : Text := []
  errors : Text := []
deriving DecidableEq

inductive Failure where
  | searchPath (error : SearchPathError)
  | tree (error : TreeError)
  | value (fault : ValueFault)
deriving DecidableEq

def Failure.message : Failure → Text
  | searchPath error => error.message
  | tree error => error.message
  | value fault => fault.message

def isUserError : TreeError → Bool
  | .numberTooLong _ | .blankClosing => false
  | _ => true

def version : Text := "0.1.0".toList

def Invocation.log (invocation : Invocation) (events : List Event) : Text :=
  if invocation.verbose then
    events.flatMap fun event => "[DEBUG] ".toList ++ event.message ++ ['\n']
  else []

def Outcome.refused (log message : Text) : Outcome :=
  { status := 2, errors := log ++ message.trimRight ++ ['\n'] }

def Outcome.unreadable (log : Text) (error : ReadError) : Outcome :=
  { status := 2, errors := log ++ "Cannot read template: ".toList ++ error.message ++ ['\n'] }

def Outcome.ofLoadError : LoadError → Except Failure Outcome
  | .unreadable error => .ok (.unreadable [] error)
  | .refused error => .ok (.refused [] error.message)
  | .faulty fault => .error (.value fault)

namespace Invocation

def configPath (invocation : Invocation) : Path :=
  match invocation.config with
  | some written => Path.ofText written
  | none => (Path.ofText []).append Config.fileName

def shownConfig (invocation : Invocation) (workingDirectory : Text) : Text :=
  match invocation.config with
  | some written => (Path.ofText written).toText
  | none => ((Path.ofText workingDirectory).append Config.fileName).toText

def loadConfig (reader : Yaml.Reader) (files : Files) (workingDirectory : Text)
    (invocation : Invocation) : Except LoadError Config :=
  let shown := invocation.shownConfig workingDirectory
  match invocation.config with
  | some written => Config.loadWith reader files (Path.ofText written) shown
  | none =>
      match files.kindFault? invocation.configPath with
      | some cause => .error (.unreadable (.noFile (.ofText shown) cause))
      | none =>
          match Config.find? files (Path.ofText []) with
          | none => .ok .standard
          | some path => Config.loadWith reader files path shown

def extend (invocation : Invocation) (config : Config) : Config :=
  { config with
    strictClosing := config.strictClosing || invocation.strict
    paths := config.paths ++ invocation.paths }

def filesRead (invocation : Invocation) : List Path :=
  let file := match invocation.command with
    | .tree file _ | .tokens file => [Path.ofText file]
    | .paths => []
  invocation.configPath :: file

end Invocation

def usage (program : Text) : Text :=
  "usage: ".toList ++ program ++ " [options]\n".toList ++
    "commands: tree FILE, tokens FILE, paths\n".toList ++
    "options: --config PATH, --strict, -I DIR, -v; --json for tree; --version\n".toList

namespace Tools

def runTokens (tools : Tools) (invocation : Invocation) (compiler : Compiler) (reader : Reader) :
    Outcome :=
  match reader.readAll with
  | .error error => .unreadable [] error
  | .ok text =>
      let report := fragmentReport reader.id (compiler.tokenize text)
      { status := 0
        output := tools.layOut report ++ ['\n']
        errors := invocation.log (compiler.tokenizeEvents text) }

def runTree (tools : Tools) (invocation : Invocation) (compiler : Compiler) (reader : Reader)
    (asJson : Bool) : Except Failure Outcome :=
  let log := invocation.log (compiler.eventsFrom reader)
  match compiler.compileFrom reader with
  | .error (.unreadable error) => .ok (.unreadable log error)
  | .error (.refused error) =>
      if isUserError error then .ok (.refused log error.message) else .error (.tree error)
  | .ok tree =>
      let shown := if asJson then tools.layOut (treeReport reader.id tree) else tree.listing 0
      .ok { status := 0, output := shown ++ ['\n'], errors := log }

def run (tools : Tools) (files : Files) (workingDirectory : Text) (invocation : Invocation) :
    Except Failure Outcome :=
  match invocation.loadConfig tools.readYaml files workingDirectory with
  | .error error => Outcome.ofLoadError error
  | .ok config =>
      let config := invocation.extend config
      match config.searchPaths with
      | .error error => .error (.searchPath error)
      | .ok paths =>
          let compiler : Compiler := { config := config }
          match invocation.command with
          | .paths => .ok { status := 0, output := paths.paths.flatMap (· ++ ['\n']) }
          | .tokens file =>
              .ok (tools.runTokens invocation compiler (.ofFile files (Path.ofText file)))
          | .tree file asJson =>
              tools.runTree invocation compiler (.ofFile files (Path.ofText file)) asJson

def execute (tools : Tools) (files : Files) (workingDirectory : Text) (arguments : List Text) :
    Except Failure Outcome :=
  match Request.ofArguments arguments with
  | .error error => .ok { status := 2, errors := error.message ++ ['\n'] }
  | .ok .showVersion => .ok { status := 0, output := programName ++ ' ' :: version ++ ['\n'] }
  | .ok (.showHelp program) => .ok { status := 0, output := usage program }
  | .ok (.perform invocation) => tools.run files workingDirectory invocation

end Tools

end TemplateTree.CommandLine
