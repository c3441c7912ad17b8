import TemplateTree.Config
import TemplateTree.Files
import TemplateTree.Value.Part
import TemplateTree.Yaml.Problem

/-!
Configuration files. A file that is missing or empty gives the standard configuration. How the text of
a file becomes a value is left to a reader.
-/
namespace TemplateTree

inductive LoadError where
  | unreadable (error : ReadError)
  | refused (error : ConfigError)
  | faulty (fault : ValueFault)

def LoadError.inFile (path : Text) : LoadError → LoadError
  | refused error => refused (.inFile path error)
  | error => error

def Value.writingFault? (values : List Value) : Option ValueFault :=
  if values.any Value.isUnwritable then some .integerUnwritable else none

namespace Delimiters

def pairs (entries : List (Value × Value)) (names : List Text) : List Value :=
  names.filterMap (Value.lookup? entries)

def keyFault? (entries : List (Value × Value)) : Option ValueFault :=
  (Value.orderFault? (otherKeys entries)).or (Value.writingFault? (otherKeys entries))

end Delimiters

namespace Config

def fileName : Text := "tplc.yaml".toList

/-- The file in a directory. Where it cannot be told whether there is one, `Files.kindFault?` says why. -/
def find? (files : Files) (directory : Path) : Option Path :=
  let path := directory.append fileName
  if files.isFile path then some path else none

def fault? (entries : List (Value × Value)) : Option ValueFault :=
  let delimiters := (delimitersOf entries).toOption.getD []
  let shown := Value.writingFault? (Delimiters.pairs delimiters Delimiters.keys)
  match ofEntries entries with
  | .error (.strictNotBoolean value) => Value.writingFault? [value]
  | .error .delimitersNotMapping | .error .pathsNotTexts => none
  | .error (.notPair key value) =>
      let before := Delimiters.keys.takeWhile (· ≠ key)
      Value.writingFault? (Delimiters.pairs delimiters before ++ [value])
  | .error (.unknownKeys _) => shown.or (Delimiters.keyFault? delimiters)
  | _ => shown

/-- Reading a mapping: what it describes, the error that refuses it, or the fault that is met. -/
def read (entries : List (Value × Value)) : Except LoadError Config :=
  match fault? entries with
  | some fault => .error (.faulty fault)
  | none => (ofEntries entries).mapError .refused

def pairInParts : Value → Value
  | .sequence [opener, closer] => Value.inParts (.sequence [opener, closer])
  | value => value

/-- A file's mapping as a configuration looks at it: what it looks at is a value of its own. -/
def valueInParts (value : Value) : Value :=
  value.inParts.mapEntries fun key value =>
    if key.isSameKey (.text delimitersKey) then value.inParts.mapEntries fun _ => pairInParts
    else value

def ofValue (path : Text) (value : Value) : Except LoadError Config :=
  if value.isFalsy then .ok .standard
  else match (valueInParts value).entries? with
    | none => .error (.refused (.fileNotMapping path))
    | some entries =>
        match fault? entries with
        | some fault => .error (.faulty fault)
        | none => (ofEntries entries).mapError fun error => .refused (.inFile path error)

def ofText (reader : Yaml.Reader) (path text : Text) : Except LoadError Config :=
  match reader text with
  | .error .malformed => .error (.refused (.malformedFile path))
  | .error (.fault fault) => .error (.faulty fault)
  | .ok value => ofValue path value

def loadWith (reader : Yaml.Reader) (files : Files) (path : Path) (shown : Text) :
    Except LoadError Config :=
  match files.kindFault? path with
  | some cause => .error (.unreadable (.noFile (.ofText shown) cause))
  | none =>
      if files.isFile path then
        match files.readText path with
        | .error error => .error (.unreadable (error.shownAs (.ofText shown)))
        | .ok text => ofText reader shown text
      else .ok .standard

end Config

end TemplateTree
