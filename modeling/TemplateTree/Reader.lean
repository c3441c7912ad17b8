import TemplateTree.Compile
import TemplateTree.Files

/-!
Sources of documents. A reader gives the whole text of a document and an identifier for it; only a
text that lies in a file can fail to be read.
-/
namespace TemplateTree

structure Reader where
  readAll : Except ReadError Text
  id : Text

namespace Reader

def ofText (text id : Text) : Reader := ⟨.ok text, id⟩

def ofFile (files : Files) (path : Path) : Reader := ⟨files.readText path, path.toText⟩

end Reader

inductive CompileError where
  | unreadable (error : ReadError)
  | refused (error : TreeError)
deriving DecidableEq

namespace Compiler

def compileFrom (compiler : Compiler) (reader : Reader) : Except CompileError Tree :=
  match reader.readAll with
  | .error error => .error (.unreadable error)
  | .ok text => (compiler.compile text reader.id).mapError .refused

def compileText (compiler : Compiler) (text : Text) (sourceId : Text := anonymous) :
    Except CompileError Tree :=
  compiler.compileFrom (.ofText text sourceId)

/-- The events of `compileFrom`: a document is started before it is read. -/
def eventsFrom (compiler : Compiler) (reader : Reader) : List Event :=
  match reader.readAll with
  | .error _ => [.started reader.id]
  | .ok text => compiler.events text reader.id

end Compiler

end TemplateTree
