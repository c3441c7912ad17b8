import TemplateTree.CommandLine.Run
import TemplateTree.Json.Layout
import TemplateTree.Yaml

/-!
The command line as the program has it: configurations are read as YAML, and reports are laid out as
JSON.
-/
namespace TemplateTree

def Config.load (files : Files) (path : Path) (shown : Text) : Except LoadError Config :=
  loadWith Yaml.read files path shown

namespace CommandLine

def Tools.standard : Tools := ⟨Yaml.read, Json.layout 0⟩

def execute (files : Files) (workingDirectory : Text) (arguments : List Text) :
    Except Failure Outcome :=
  Tools.standard.execute files workingDirectory arguments

end CommandLine

end TemplateTree
