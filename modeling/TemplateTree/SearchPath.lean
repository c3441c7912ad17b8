import TemplateTree.Text.Basic

/-!
The directories in which included and extended templates are searched. Compiling does not look into
them; they are kept for whoever resolves the targets later.
-/
namespace TemplateTree

def Text.asDirectory (path : Text) : Text :=
  let path := path.map fun c => if c = '\\' then '/' else c
  if path.getLast? = some '/' then path else path ++ ['/']

inductive SearchPathError where
  | emptyPath
deriving DecidableEq

def SearchPathError.message : SearchPathError → Text
  | emptyPath => "Search path must not be empty".toList

structure SearchPaths where
  paths : List Text

namespace SearchPaths

def workingDirectory : Text := ['.', '/']

def standard : SearchPaths := ⟨[workingDirectory]⟩

def add (paths : SearchPaths) (path : Text) : Except SearchPathError SearchPaths :=
  if path = [] then .error .emptyPath else .ok ⟨paths.paths ++ [path.asDirectory]⟩

def ofList (paths : List Text) : Except SearchPathError SearchPaths :=
  paths.foldlM add standard

end SearchPaths

end TemplateTree
