import TemplateTree.Text.Utf8
import TemplateTree.Text.Digit
import TemplateTree.Yaml.Spot
import TemplateTree.Yaml.Version

/-!
Tags, which name the kind of a value. A written tag is a suffix behind a handle, and the handle
stands for the start of the name.
-/
namespace TemplateTree.Yaml

inductive Tag where
  | null
  | boolean
  | integer
  | real
  | bytes
  | moment
  | text
  | sequence
  | mapping
  | orderedMapping
  | pairs
  | set
  | merge
  /-- A key whose value stands for the mapping where a scalar is expected. -/
  | standIn
  | unknown
deriving DecidableEq

structure WrittenTag where
  handle : Option Text
  suffix : Text
deriving DecidableEq

namespace Tag

def standardStart : Text := "tag:yaml.org,2002:".toList

def names : List (String × Tag) :=
  [("null", .null), ("bool", .boolean), ("int", .integer), ("float", .real), ("binary", .bytes),
   ("timestamp", .moment), ("str", .text), ("seq", .sequence), ("map", .mapping),
   ("omap", .orderedMapping), ("pairs", .pairs), ("set", .set), ("merge", .merge),
   ("value", .standIn)]

def ofName (name : Text) : Tag :=
  (((name.dropPrefix? standardStart).bind fun rest => names.lookup (String.ofList rest))).getD
    .unknown

def standardHandles : List (Text × Text) := [(['!'], ['!']), (['!', '!'], standardStart)]

end Tag

namespace WrittenTag

def name? (tag : WrittenTag) (handles : List (Text × Text)) : Option Text :=
  match tag.handle with
  | none => some tag.suffix
  | some handle => (handles.lookup handle).map (· ++ tag.suffix)

/-! ## Reading -/

def isTagChar (version : Version) (c : Char) : Bool :=
  c.isAlphanum || "-;/?:@&=+$,_.!~*'()[]%".toList.contains c || (c = '#' && 1 < version.minor)

def bytes? : Text → Option (List UInt8)
  | [] => some []
  | '%' :: high :: low :: text => do
      let code ← Text.baseValue? 16 [high, low]
      return code.toUInt8 :: (← bytes? text)
  | c :: text => if c = '%' then none else (bytes? text).map (c.toNat.toUInt8 :: ·)

def tagText? (version : Version) (input : List Spot) : Option (Text × List Spot) := do
  let written := input.takeWhile fun spot => isTagChar version spot.char
  if written.isEmpty then none
  let bytes ← bytes? (written.map Spot.char)
  let text ← (Text.ofUtf8 bytes).toOption
  return (text, input.drop written.length)

def isWordChar (c : Char) : Bool := c.isAlphanum || c = '-' || c = '_'

def namedHandle? (input : List Spot) : Option (Text × List Spot) :=
  let word := input.takeWhile fun spot => isWordChar spot.char
  match input.drop word.length with
  | mark :: rest =>
      if mark.char = '!' then some ('!' :: (word.map Spot.char ++ ['!']), rest) else none
  | [] => none

def parts? (version : Version) (short : Text) (input : List Spot) :
    Option (WrittenTag × List Spot) :=
  match input with
  | [] => some (⟨none, short⟩, [])
  | first :: rest =>
      if first.char = '<' then do
        let (suffix, rest) ← tagText? version rest
        match rest with
        | close :: rest => if close.char = '>' then return (⟨none, suffix⟩, rest) else none
        | [] => none
      else if first.isGap then some (⟨none, short⟩, input)
      else do
        let word := input.takeWhile fun spot => !(spot.char = ' ' || spot.isBreak)
        let (handle, rest) ←
          if word.any fun spot => spot.char = '!' then namedHandle? input else some (short, input)
        let (suffix, rest) ← tagText? version rest
        return (⟨some handle, suffix⟩, rest)

def read? (version : Version) (input : List Spot) : Option (WrittenTag × List Spot) := do
  let (tag, rest) ← match input with
    | first :: more =>
        if first.char = '!' then parts? version ['!', '!'] more else parts? version ['!'] input
    | [] => parts? version ['!'] []
  if Spot.spaceAhead rest then return (tag, rest) else none

end WrittenTag

end TemplateTree.Yaml
