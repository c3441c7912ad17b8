import TemplateTree.Text.Digit

/-!
Options of a command line. An option is written in full, as a unique start of a long name, or as one
letter; letters may be written together, and the last of them may take what follows it as its
value. Two hyphens alone end the options.
-/
namespace TemplateTree.CommandLine

structure OptionSpec where
  names : List Text
  takesValue : Bool := false
deriving DecidableEq

inductive OptionError where
  | missingValue (option : OptionSpec)
  | needlessValue (option : OptionSpec) (value : Text)
  | ambiguous (written : Text) (names : List Text)
deriving DecidableEq

structure Setting where
  option : OptionSpec
  value : Option Text := none

/-- A value that is written together with its option; `isMarked` tells that an equals sign stands in
front of it. -/
structure Attached where
  isMarked : Bool
  value : Text

inductive ArgumentKind where
  | separator
  | known (option : OptionSpec) (name : Text) (attached : Option Attached)
  | unknown
  | plain

def ArgumentKind.isOption : ArgumentKind → Bool
  | known _ _ _ | unknown => true
  | separator | plain => false

def ArgumentKind.isPlain : ArgumentKind → Bool
  | plain => true
  | _ => false

abbrev Argument := Text × ArgumentKind

namespace OptionSpec

def named? (options : List OptionSpec) (name : Text) : Option OptionSpec :=
  options.find? (·.names.contains name)

def withNames (options : List OptionSpec) : List (OptionSpec × Text) :=
  options.flatMap fun option => option.names.map (option, ·)

def candidates (options : List OptionSpec) (argument : Text) :
    List (OptionSpec × Text × Option Attached) :=
  match argument with
  | '-' :: '-' :: _ =>
      let (start, attached) := match argument.cut? ['='] with
        | some (start, value) => (start, some { isMarked := true, value : Attached })
        | none => (argument, none)
      (withNames options).filterMap fun (option, name) =>
        if (name.dropPrefix? start).isSome then some (option, name, attached) else none
  | hyphen :: letter :: value =>
      (withNames options).filterMap fun (option, name) =>
        if name = [hyphen, letter] then some (option, name, some { isMarked := false, value })
        else if (name.dropPrefix? argument).isSome then some (option, name, none)
        else none
  | _ => []

def isNegativeNumber : Text → Bool
  | '-' :: text =>
      let text := if text.getLast? = some '\n' then text.dropLast else text
      match Text.cut? text ['.'] with
      | none => text ≠ [] && text.all Text.isDigit
      | some (whole, places) => whole.all Text.isDigit && places ≠ [] && places.all Text.isDigit
  | _ => false

def kindOf (options : List OptionSpec) (argument : Text) : Except OptionError ArgumentKind :=
  match argument with
  | '-' :: _ :: _ =>
      match named? options argument with
      | some option => .ok (.known option argument none)
      | none =>
          let split := argument.cut? ['=']
          match split, split.bind fun (name, _) => named? options name with
          | some (name, value), some option =>
              .ok (.known option name (some { isMarked := true, value }))
          | _, _ =>
              match candidates options argument with
              | [(option, name, attached)] => .ok (.known option name attached)
              | [] =>
                  if isNegativeNumber argument || argument.contains ' ' then .ok .plain
                  else .ok .unknown
              | several => .error (.ambiguous argument (several.map fun found => found.2.1))
  | _ => .ok .plain

def classify (options : List OptionSpec) : List Text → Except OptionError (List Argument)
  | [] => .ok []
  | argument :: arguments =>
      if argument = ['-', '-'] then
        .ok ((argument, .separator) :: arguments.map (·, .plain))
      else do
        let kind ← kindOf options argument
        let rest ← classify options arguments
        return (argument, kind) :: rest

end OptionSpec

/-- What an argument with an option sets, in order. `rest` is what of it is unknown, and `waiting`
is an option whose value is the next argument. -/
structure Expansion where
  settings : List Setting := []
  waiting : Option OptionSpec := none
  rest : List Text := []

namespace Expansion

/-- Reads the value that is attached to an option. An option without value that is written as a
letter lets the next letter be an option. -/
def ofAttached (options : List OptionSpec) (option : OptionSpec) (isLetter isMarked : Bool)
    (value : Text) : Except OptionError Expansion :=
  if option.takesValue then .ok { settings := [⟨option, value⟩] }
  else match value with
    | [] => .error (.needlessValue option value)
    | letter :: behind =>
        if !isLetter || isMarked || letter = '-' then .error (.needlessValue option value)
        else match OptionSpec.named? options ['-', letter] with
          | none => .ok { settings := [{ option := option }], rest := ['-' :: value] }
          | some next =>
              match behind with
              | [] =>
                  if next.takesValue then
                    .ok { settings := [{ option := option }], waiting := next }
                  else .ok { settings := [{ option := option }, { option := next }] }
              | '=' :: marked => do
                  let expansion ← ofAttached options next true true marked
                  return { expansion with settings := { option := option } :: expansion.settings }
              | c :: more => do
                  let expansion ← ofAttached options next true false (c :: more)
                  return { expansion with settings := { option := option } :: expansion.settings }

def ofOption (options : List OptionSpec) (option : OptionSpec) (name : Text) :
    Option Attached → Except OptionError Expansion
  | none =>
      if option.takesValue then .ok { waiting := option }
      else .ok { settings := [{ option := option }] }
  | some attached =>
      let isLetter := match name with
        | '-' :: '-' :: _ => false
        | _ => true
      ofAttached options option isLetter attached.isMarked attached.value

end Expansion

structure Arguments where
  settings : List Setting := []
  values : List Text := []
  extras : List Text := []

namespace Arguments

/-- Takes the first argument as a value while values are missing, together with two hyphens next to
it. No argument is an option. -/
def takeValue (wanted : Nat) (read : Arguments) : List Argument → Arguments × List Argument
  | (_, .separator) :: (value, kind) :: rest =>
      if 0 < wanted then ({ read with values := read.values ++ [value] }, rest)
      else (read, (['-', '-'], .separator) :: (value, kind) :: rest)
  | (value, kind) :: (next, nextKind) :: rest =>
      if wanted = 0 then (read, (value, kind) :: (next, nextKind) :: rest)
      else
        let read := { read with values := read.values ++ [value] }
        match nextKind with
        | .separator => (read, rest)
        | _ => (read, (next, nextKind) :: rest)
  | [(value, .plain)] =>
      if 0 < wanted then ({ read with values := read.values ++ [value] }, [])
      else (read, [(value, .plain)])
  | rest => (read, rest)

/-- Reads arguments in order. Between options one value is taken at most, and what is left there is
extra. Reading ends early at a setting that `stops` marks. -/
def readFrom (options : List OptionSpec) (stops : Setting → Bool) (wanted : Nat) (read : Arguments)
    (arguments : List Argument) : Except OptionError Arguments :=
  if arguments.any (·.2.isOption) then
    match arguments with
    | [] => .ok read
    | (written, .known option name attached) :: rest => do
        let expansion ← Expansion.ofOption options option name attached
        let read :=
          { read with
            settings := read.settings ++ expansion.settings
            extras := read.extras ++ expansion.rest }
        match expansion.waiting, rest with
        | none, rest =>
            if expansion.settings.any stops then .ok read
            else readFrom options stops wanted read rest
        | some option, (value, .plain) :: rest =>
            if expansion.settings.any stops then .ok read
            else
              let settings := read.settings ++ [⟨option, value⟩]
              readFrom options stops wanted { read with settings } rest
        | some option, _ => .error (.missingValue option)
    | (written, .unknown) :: rest =>
        readFrom options stops wanted { read with extras := read.extras ++ [written] } rest
    | (written, _) :: rest =>
        if 0 < wanted then
          readFrom options stops (wanted - 1) { read with values := read.values ++ [written] } rest
        else readFrom options stops wanted { read with extras := read.extras ++ [written] } rest
  else
    let (read, rest) := takeValue wanted read arguments
    .ok { read with extras := read.extras ++ rest.map Prod.fst }
termination_by arguments.length

end Arguments

end TemplateTree.CommandLine
