import TemplateTree.Delimiters
import TemplateTree.SearchPath
import TemplateTree.Value

/-!
Configurations, and the mappings from which they are made.
-/
namespace TemplateTree

inductive ConfigError where
  | delimitersNotMapping
  | strictNotBoolean (value : Value)
  | pathsNotTexts
  | notPair (key : Text) (value : Value)
  | unknownKeys (keys : List Value)
  | emptyMark (name : Text)
  | malformedFile (path : Text)
  | fileNotMapping (path : Text)
  | inFile (path : Text) (error : ConfigError)

def ConfigError.message : ConfigError → Text
  | delimitersNotMapping => "delimiters: expected a mapping".toList
  | strictNotBoolean value =>
      "strict_close_tags: expected a boolean, got ".toList ++ value.describe
  | pathsNotTexts => "paths: expected a list of non-empty strings".toList
  | notPair key value =>
      "delimiters.".toList ++ key ++ ": expected a pair [start, end], got ".toList ++ value.describe
  | unknownKeys keys => "delimiters: unknown keys ".toList ++ (Value.sequence keys).describe
  | emptyMark name => "Delimiter '".toList ++ name ++ "' must be a non-empty string".toList
  | malformedFile path => "Invalid YAML in ".toList ++ path
  | fileNotMapping path => "YAML must be a mapping: ".toList ++ path
  | inFile path error => path ++ ':' :: ' ' :: error.message

structure EnclosureName where
  key : Text
  opener : Text
  closer : Text

namespace EnclosureName

def comment : EnclosureName :=
  ⟨"comment".toList, "comment_start".toList, "comment_end".toList⟩

def variableTag : EnclosureName :=
  ⟨"variable".toList, "var_start".toList, "var_end".toList⟩

def blockTag : EnclosureName :=
  ⟨"block".toList, "block_start".toList, "block_end".toList⟩

end EnclosureName

namespace Enclosure

def ofTexts (name : EnclosureName) (opener closer : Text) : Except ConfigError Enclosure :=
  match Mark.ofText? opener, Mark.ofText? closer with
  | some opener, some closer => .ok ⟨opener, closer⟩
  | none, _ => .error (.emptyMark name.opener)
  | _, none => .error (.emptyMark name.closer)

def toValue (enclosure : Enclosure) : Value :=
  .sequence [.text enclosure.opener.text, .text enclosure.closer.text]

end Enclosure

namespace Delimiters

def textsAt (entries : List (Value × Value)) (name : EnclosureName) (standard : Enclosure) :
    Except ConfigError (Text × Text) :=
  match Value.lookup? entries name.key with
  | none => .ok (standard.opener.text, standard.closer.text)
  | some (.sequence [opener, closer]) => .ok (opener.toText, closer.toText)
  | some (.tuple [opener, closer]) => .ok (opener.toText, closer.toText)
  | some value => .error (.notPair name.key value)

def keys : List Text :=
  [EnclosureName.comment.key, EnclosureName.variableTag.key, EnclosureName.blockTag.key]

def otherKeys (entries : List (Value × Value)) : List Value :=
  (entries.map Prod.fst).filter fun key => !keys.any fun known => key.isSameKey (.text known)

def unknownKeys (entries : List (Value × Value)) : List Value :=
  (otherKeys entries).mergeSort Value.keyLe

def ofEntries (entries : List (Value × Value)) : Except ConfigError Delimiters := do
  let comment ← textsAt entries .comment standard.comment
  let variableTag ← textsAt entries .variableTag standard.variableTag
  let blockTag ← textsAt entries .blockTag standard.blockTag
  if unknownKeys entries ≠ [] then throw (.unknownKeys (unknownKeys entries))
  let comment ← Enclosure.ofTexts .comment comment.1 comment.2
  let variableTag ← Enclosure.ofTexts .variableTag variableTag.1 variableTag.2
  let blockTag ← Enclosure.ofTexts .blockTag blockTag.1 blockTag.2
  return { comment, variableTag, blockTag }

def fieldAt (entries : List (Value × Value)) (name : Text) (standard : Mark) : Text :=
  match Value.lookup? entries name with
  | none => standard.text
  | some value => value.nonemptyText?.getD []

def enclosureOfFields (entries : List (Value × Value)) (name : EnclosureName)
    (standard : Enclosure) : Except ConfigError Enclosure :=
  Enclosure.ofTexts name (fieldAt entries name.opener standard.opener)
    (fieldAt entries name.closer standard.closer)

def ofFields (entries : List (Value × Value)) : Except ConfigError Delimiters := do
  let comment ← enclosureOfFields entries .comment standard.comment
  let variableTag ← enclosureOfFields entries .variableTag standard.variableTag
  let blockTag ← enclosureOfFields entries .blockTag standard.blockTag
  return { comment, variableTag, blockTag }

def toEntries (delimiters : Delimiters) : List (Value × Value) :=
  [(.text EnclosureName.comment.key, delimiters.comment.toValue),
   (.text EnclosureName.variableTag.key, delimiters.variableTag.toValue),
   (.text EnclosureName.blockTag.key, delimiters.blockTag.toValue)]

end Delimiters

structure Config where
  delimiters : Delimiters := .standard
  strictClosing : Bool := false
  paths : List Text := []
deriving DecidableEq

namespace Config

def standard : Config := {}

def delimitersKey : Text := "delimiters".toList

def strictKey : Text := "strict_close_tags".toList

def pathsKey : Text := "paths".toList

def delimitersOf (entries : List (Value × Value)) : Except ConfigError (List (Value × Value)) :=
  match Value.lookup? entries delimitersKey with
  | none => .ok []
  | some value =>
      if value.isFalsy then .ok []
      else match value.entries? with
        | some entries => .ok entries
        | none => .error .delimitersNotMapping

def strictOf (entries : List (Value × Value)) : Except ConfigError Bool :=
  match Value.lookup? entries strictKey with
  | none => .ok false
  | some (.boolean strict) => .ok strict
  | some value => .error (.strictNotBoolean value)

def pathsOf (entries : List (Value × Value)) : Except ConfigError (List Text) :=
  match Value.lookup? entries pathsKey with
  | none => .ok []
  | some value =>
      if value.isFalsy then .ok []
      else match value with
        | .text path => .ok [path]
        | .sequence items =>
            match items.mapM Value.nonemptyText? with
            | some paths => .ok paths
            | none => .error .pathsNotTexts
        | _ => .error .pathsNotTexts

def ofEntries (entries : List (Value × Value)) : Except ConfigError Config := do
  let delimiters ← delimitersOf entries
  let strictClosing ← strictOf entries
  let paths ← pathsOf entries
  let delimiters ← Delimiters.ofEntries delimiters
  return { delimiters, strictClosing, paths }

def toEntries (config : Config) : List (Value × Value) :=
  [(.text delimitersKey, .mapping config.delimiters.toEntries),
   (.text strictKey, .boolean config.strictClosing),
   (.text pathsKey, .sequence (config.paths.map .text))]

def searchPaths (config : Config) : Except SearchPathError SearchPaths :=
  SearchPaths.ofList config.paths

end Config

end TemplateTree
