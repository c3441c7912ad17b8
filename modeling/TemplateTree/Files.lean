import TemplateTree.Path
import TemplateTree.Text.Digit
import TemplateTree.Text.LineBreak
import TemplateTree.Text.Quoted
import TemplateTree.Text.Utf8

/-!
Files and what can go wrong when one is read. A program sees files only through what reading a path
gives; a folder held in memory gives that, and so does a table of files read before.
-/
namespace TemplateTree

inductive FileCause where
  | missing
  | isDirectory
  | notDirectory
  | other (code : Nat) (reason : Text)
deriving DecidableEq

def FileCause.code : FileCause → Nat
  | missing => 2
  | isDirectory => 21
  | notDirectory => 20
  | other code _ => code

def FileCause.reason : FileCause → Text
  | missing => "No such file or directory".toList
  | isDirectory => "Is a directory".toList
  | notDirectory => "Not a directory".toList
  | other _ reason => reason

def FileCause.ofCode (code : Nat) (reason : Text) : FileCause :=
  if code = 2 then missing
  else if code = 21 then isDirectory
  else if code = 20 then notDirectory
  else other code reason

/-- Causes for which nothing stands at a path: no such entry, a bad number of an entry, no folder on
the way, and links that go in circles. -/
def FileCause.isAbsence (cause : FileCause) : Bool := [2, 9, 20, 40].contains cause.code

@[simp] theorem FileCause.code_ofCode (code : Nat) (reason : Text) :
    (ofCode code reason).code = code := by
  unfold ofCode
  repeat' split
  all_goals simp_all [FileCause.code]

inductive ReadError where
  | noFile (path : Path) (cause : FileCause)
  | notUtf8 (fault : Utf8Fault)
deriving DecidableEq

def ReadError.shownAs (shown : Path) : ReadError → ReadError
  | noFile _ cause => noFile shown cause
  | notUtf8 fault => notUtf8 fault

def ReadError.message : ReadError → Text
  | noFile path cause =>
      "[Errno ".toList ++ Text.ofNat cause.code ++ "] ".toList ++ cause.reason ++ ": ".toList ++
        path.toText.quoted
  | notUtf8 fault => fault.message

inductive EntryKind where
  | file
  | folder
  | other
deriving DecidableEq

def EntryKind.ofContent : Except FileCause (List UInt8) → Except FileCause EntryKind
  | .ok _ => .ok file
  | .error .isDirectory => .ok folder
  | .error cause => .error cause

/-- What stands at a path and what reading it gives are asked apart: a file need not be readable. -/
structure Files where
  kind : Path → Except FileCause EntryKind
  read : Path → Except FileCause (List UInt8)

namespace Files

def readText (files : Files) (path : Path) : Except ReadError Text :=
  match files.read path with
  | .error cause => .error (.noFile path cause)
  | .ok bytes =>
      match Text.ofUtf8 bytes with
      | .error fault => .error (.notUtf8 fault)
      | .ok text => .ok text.unifyLineBreaks

def isFile (files : Files) (path : Path) : Bool :=
  match files.kind path with
  | .ok .file => true
  | _ => false

def kindFault? (files : Files) (path : Path) : Option FileCause :=
  match files.kind path with
  | .ok _ => none
  | .error cause => if cause.isAbsence then none else some cause

theorem kindFault?_of_isFile {files : Files} {path : Path} (stands : files.isFile path = true) :
    files.kindFault? path = none := by
  unfold isFile at stands
  unfold kindFault?
  split at stands
  next found => rw [found]
  · cases stands

def ofTable (table : List (Path × Except FileCause (List UInt8))) : Files :=
  let content := fun path => (table.lookup path).getD (.error .missing)
  { kind := fun path => EntryKind.ofContent (content path), read := content }

end Files

inductive Entry where
  | file (bytes : List UInt8)
  | folder (entries : List (Text × Entry))

namespace Entry

def insert (entries : List (Text × Entry)) : List Text → Entry → List (Text × Entry)
  | [], _ => entries
  | [name], entry => (name, entry) :: entries
  | name :: parts, entry =>
      let below := match entries.lookup name with
        | some (.folder entries) => entries
        | _ => []
      (name, .folder (insert below parts entry)) :: entries

/-- Follows the parts of a path; `above` holds the folders around the entry, innermost first.
Nothing is known of what lies around the outermost folder, but that it has one around it. -/
def follow (above : List Entry) : Entry → List Text → Except FileCause Entry
  | entry, [] => .ok entry
  | .file _, _ :: _ => .error .notDirectory
  | .folder entries, part :: parts =>
      if part = Path.up then
        match above with
        | outer :: above => follow above outer parts
        | [] => follow [] (.folder []) parts
      else match entries.lookup part with
        | some entry => follow (.folder entries :: above) entry parts
        | none => .error .missing

def content (root : Entry) (path : Path) : Except FileCause (List UInt8) :=
  match follow [] (if path.anchor = [] then root else .folder []) path.parts with
  | .ok (.file bytes) => .ok bytes
  | .ok (.folder _) => .error .isDirectory
  | .error cause => .error cause

def files (root : Entry) : Files where
  kind path := EntryKind.ofContent (root.content path)
  read := root.content

end Entry

end TemplateTree
