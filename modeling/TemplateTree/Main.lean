import TemplateTree.CommandLine

/-!
The program. It reads the files that its command may need, performs the command on them, and writes
what the command leaves.
-/
namespace TemplateTree.CommandLine

/-- The number of an error; a system may report it negated. -/
def errorNumber (code : UInt32) : Nat := if code < 0x80000000 then code.toNat else (-code).toNat

def causeOf : IO.Error → FileCause
  | .noFileOrDirectory _ code reason | .interrupted _ code reason =>
      .ofCode (errorNumber code) reason.toList
  | .alreadyExists _ code reason | .invalidArgument _ code reason
  | .permissionDenied _ code reason | .resourceExhausted _ code reason
  | .inappropriateType _ code reason | .noSuchThing _ code reason =>
      .ofCode (errorNumber code) reason.toList
  | .otherError code reason | .resourceBusy code reason | .resourceVanished code reason
  | .unsupportedOperation code reason | .hardwareFault code reason
  | .unsatisfiedConstraints code reason | .illegalOperation code reason
  | .protocolError code reason | .timeExpired code reason =>
      .ofCode (errorNumber code) reason.toList
  | .unexpectedEof => .other 5 "Input/output error".toList
  | .userError reason => .other 5 reason.toList

def readPath (path : Path) : IO (Path × Except FileCause (List UInt8)) := do
  try
    let bytes ← IO.FS.readBinFile (String.ofList path.toText)
    return (path, .ok bytes.toList)
  catch error => return (path, .error (causeOf error))

def kindOf (path : Path) : IO (Path × Except FileCause EntryKind) := do
  try
    let found ← ((← IO.currentDir) / String.ofList path.toText).metadata
    let kind := match found.type with
      | .file => EntryKind.file
      | .dir => .folder
      | _ => .other
    return (path, .ok kind)
  catch error => return (path, .error (causeOf error))

def filesFor (arguments : List Text) : IO Files := do
  match Request.ofArguments arguments with
  | .ok (.perform invocation) =>
      let contents ← invocation.filesRead.mapM readPath
      let kinds ← invocation.filesRead.mapM kindOf
      return { Files.ofTable contents with
        kind := fun path => (kinds.lookup path).getD (.error .missing) }
  | _ => return .ofTable []

end TemplateTree.CommandLine

open TemplateTree

def main (arguments : List String) : IO UInt32 := do
  let arguments := arguments.map String.toList
  let files ← CommandLine.filesFor arguments
  let workingDirectory ← IO.currentDir
  match CommandLine.execute files workingDirectory.toString.toList arguments with
  | .ok outcome =>
      IO.eprint (String.ofList outcome.errors)
      IO.print (String.ofList outcome.output)
      return outcome.status.toUInt32
  | .error failure =>
      IO.eprintln (String.ofList failure.message)
      return 1
