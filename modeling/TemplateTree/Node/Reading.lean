import TemplateTree.Fragment
import TemplateTree.TreeError

/-!
How nodes read their tags. A node that refuses a tag keeps its data; the data that a tag leaves
behind depends on the kind of the node and on the tag alone.
-/
namespace TemplateTree

namespace Text

/-- The text behind a keyword: a blank, and then at least one character. The blanks at its ends are
dropped. -/
def argument? (tag keyword : Text) : Option Text :=
  match tag.dropPrefix? keyword with
  | some (c :: rest) => if isBlank c && rest ≠ [] then some (trim rest) else none
  | _ => none

def inWord : Text := ['i', 'n']

/-- Cuts a text at its first `in` between blanks that has something behind it; `before` has been
read already (last character first). -/
def cutAtIn? (before : Text) : Text → Option (Text × Text)
  | [] => none
  | c :: text =>
      match if isBlank c then argument? (text.dropWhile isBlank) inWord else none with
      | some argument => some (before.reverse, argument)
      | none => cutAtIn? (c :: before) text

def listed (text : Text) : List Text :=
  ((text.pieces (· = ',')).map trim).filter (· ≠ [])

end Text

namespace Content

/-- The variables of a loop and what it runs over, as they stand behind the keyword. Blanks alone
count as variables where at least two of them are left behind the one that ends the keyword. -/
def loopParts? (tag : Text) : Option (Text × Text) :=
  match tag.dropPrefix? Kind.loop.name with
  | none => none
  | some rest =>
      let blanks := rest.takeWhile Text.isBlank
      let body := rest.dropWhile Text.isBlank
      if blanks = [] then none
      else (Text.cutAtIn? [] body).or
        (if 3 ≤ blanks.length then (Text.argument? body Text.inWord).map (([], ·)) else none)

def readLoop (tag : Text) : Except TreeError Content :=
  match loopParts? tag with
  | none => .error (.unknownTag tag)
  | some (written, iterable) =>
      let targets := written.listed
      if targets ≠ [] && targets.all Text.isWord then .ok (.loop targets iterable)
      else .error (.invalidTargets tag)

def readBlock (tag : Text) : Except TreeError Content :=
  match tag.dropPrefix? Kind.block.name with
  | none => .error (.unknownTag tag)
  | some rest =>
      let body := rest.dropWhile Text.isBlank
      let name := body.takeWhile Text.isWordChar
      let behind := body.dropWhile Text.isWordChar
      if body.length < rest.length && name ≠ [] && (behind = [] || behind = ['\n']) then
        .ok (.block name)
      else .error (.unknownTag tag)

def readCache (tag : Text) : Except TreeError Content :=
  match tag.dropPrefix? Kind.cache.name with
  | none => .error (.unknownTag tag)
  | some rest =>
      let body := rest.dropWhile Text.isBlank
      let digits := body.takeWhile Text.isDigit
      if body.length < rest.length && digits ≠ [] then
        match Text.argument? body digits with
        | none => .error (.unknownTag tag)
        | some key =>
            if digits.length ≤ TreeError.digitLimit then .ok (.cache (Text.digitsValue digits) key)
            else .error (.numberTooLong digits.length)
      else .error (.unknownTag tag)

def readArgument (keyword : Text) (make : Text → Content) (tag : Text) : Except TreeError Content :=
  match tag.argument? keyword with
  | some argument => .ok (make argument)
  | none => .error (.unknownTag tag)

def read (content : Content) (fragment : Fragment) : Except TreeError Content :=
  match content with
  | text _ => .ok (.text fragment.raw)
  | expression _ => .ok (.expression fragment.clean)
  | conditional _ => readArgument Kind.conditional.name .conditional fragment.clean
  | inclusion _ => readArgument Kind.inclusion.name .inclusion fragment.clean
  | extension _ => readArgument Kind.extension.name .extension fragment.clean
  | loop _ _ => readLoop fragment.clean
  | block _ => readBlock fragment.clean
  | cache _ _ => readCache fragment.clean
  | plain | leaf | root _ | alternative => .ok content

end Content

namespace Node

def mark (node : Node) (fragment : Fragment) : Node :=
  { node with tag := some fragment.clean }

def read (node : Node) (fragment : Fragment) : Except TreeError Node :=
  (node.content.read fragment).map fun content => { node.mark fragment with content }

/-- The node and the error that reading the fragment leaves behind: the tag is kept in any case. -/
def absorb (node : Node) (fragment : Fragment) : Node × Option TreeError :=
  match node.read fragment with
  | .ok node => (node, none)
  | .error error => (node.mark fragment, some error)

def ofFragment (kind : Kind) (fragment : Fragment) : Except TreeError Node :=
  (Node.fresh kind).read fragment

end Node

end TemplateTree
