import TemplateTree.Yaml.Element
import TemplateTree.Yaml.Entries
import TemplateTree.Yaml.Scalar

/-!
Values of YAML elements. Keys are made with all that is in them at once, and everything else level
by level.
-/
namespace TemplateTree.Yaml

def isCollection : Tag → Bool
  | .sequence | .mapping | .orderedMapping | .pairs | .set => true
  | _ => false

def Element.isMerge : Element → Bool
  | .scalar .merge _ => true
  | _ => false

def Element.standIn? : Element → Option Text
  | .scalar .standIn text => some text
  | _ => none

mutual

def Element.text? : Element → Option Text
  | .scalar _ text => some text
  | .mapping _ entries => standInText? entries
  | .sequence _ _ | .recurrence _ _ => none

def standInText? : List (Element × Element) → Option Text
  | [] => none
  | entry :: entries =>
      match entryText? entry with
      | some text => text
      | none => standInText? entries

def entryText? : Element × Element → Option (Option Text)
  | (key, element) => if key.standIn?.isSome then some element.text? else none

end

def collectionShape : Tag → CollectionShape
  | .sequence | .pairs => .sequence
  | .orderedMapping => .orderedMapping
  | .set => .set
  | _ => .mapping

mutual

/-- The value of an element that is met on a level; all that is in it belongs to the same level if
it is made `atOnce`, and to the next one otherwise. What is made at once is null where it comes
again inside itself. -/
def Element.value (version : Version) (level : Nat) (atOnce : Bool) : Element → Leveled Value
  | .scalar tag text =>
      if isCollection tag then .error (if atOnce then level else level + 1, .malformed)
      else (scalarValue version tag text).mapError fun problem => (level, problem)
  | .sequence tag items =>
      let inner := if atOnce then level else level + 1
      match tag with
      | .sequence => (Leveled.all (values version inner atOnce items)).map .sequence
      | .orderedMapping =>
          (orderedEntries inner [] (soleEntries version inner atOnce items)).map .orderedMapping
      | .pairs => (pairItems inner (soleEntries version inner atOnce items)).map .sequence
      | .mapping | .set => .error (inner, .malformed)
      | _ => .error (level, .malformed)
  | .mapping tag entries =>
      let inner := if atOnce then level else level + 1
      let content := (rawEntries version inner atOnce [] [] entries).elim
        (.error (inner, .malformed)) fun (merged, own) => mappingEntries inner merged own
      match tag with
      | .mapping => content.map .mapping
      | .set => content.map setOf
      | .sequence | .orderedMapping | .pairs => .error (inner, .malformed)
      | .moment => .error (level, .malformed)
      | _ =>
          let value := (orMalformed (standInText? entries)).bind (scalarValue version tag)
          value.mapError fun problem => (level, problem)
  | .recurrence target tag =>
      .ok <| if atOnce && level ≤ target then .null
        else .recurrence (level - 1 - target) (collectionShape tag)

def values (version : Version) (level : Nat) (atOnce : Bool) : List Element → List (Leveled Value)
  | [] => []
  | element :: elements =>
      element.value version level atOnce :: values version level atOnce elements

def soleEntries (version : Version) (level : Nat) (atOnce : Bool) :
    List Element → List (Option RawEntry)
  | [] => []
  | element :: elements =>
      soleEntry version level atOnce element :: soleEntries version level atOnce elements

def soleEntry (version : Version) (level : Nat) (atOnce : Bool) : Element → Option RawEntry
  | .mapping _ entries =>
      match entryValues version level atOnce entries with
      | [entry] => some entry
      | _ => none
  | _ => none

def entryValues (version : Version) (level : Nat) (atOnce : Bool) :
    List (Element × Element) → List RawEntry
  | [] => []
  | entry :: entries =>
      entryValue version level atOnce entry :: entryValues version level atOnce entries

def entryValue (version : Version) (level : Nat) (atOnce : Bool) : Element × Element → RawEntry
  | (key, element) =>
      ⟨key.value version level atOnce, element.value version level atOnce⟩

/-- The entries of a mapping, behind those that are merged into it and its own ones so far. Merging
is named once, unless nothing was merged. -/
def rawEntries (version : Version) (level : Nat) (atOnce : Bool) (merged own : List RawEntry) :
    List (Element × Element) → Option (List RawEntry × List RawEntry)
  | [] => some (merged, own)
  | entry :: entries =>
      (rawEntry version level atOnce merged own entry).bind fun (merged, own) =>
        rawEntries version level atOnce merged own entries

def rawEntry (version : Version) (level : Nat) (atOnce : Bool) (merged own : List RawEntry) :
    Element × Element → Option (List RawEntry × List RawEntry)
  | (key, element) =>
      if key.isMerge then
        if merged.isEmpty then
          (mergeSource version level atOnce element).map fun source => (source, own)
        else none
      else
        let value := match key.standIn? with
          | some text => .ok (.text text)
          | none => key.value version level true
        some (merged, own ++ [⟨value, element.value version level atOnce⟩])

/-- The entries that an element gives to the mapping that merges it: those of a mapping, or of
several, of which the first ones count most. -/
def mergeSource (version : Version) (level : Nat) (atOnce : Bool) : Element → Option (List RawEntry)
  | .mapping _ entries =>
      (rawEntries version level atOnce [] [] entries).map fun (merged, own) => merged ++ own
  | .sequence _ items => mergeSources version level atOnce items
  | .recurrence _ _ => some []
  | .scalar _ _ => none

def mergeSources (version : Version) (level : Nat) (atOnce : Bool) :
    List Element → Option (List RawEntry)
  | [] => some []
  | element :: elements => do
      let source ← mappingSource version level atOnce element
      let sources ← mergeSources version level atOnce elements
      return sources ++ source

def mappingSource (version : Version) (level : Nat) (atOnce : Bool) :
    Element → Option (List RawEntry)
  | .mapping _ entries =>
      (rawEntries version level atOnce [] [] entries).map fun (merged, own) => merged ++ own
  | .recurrence _ _ => some []
  | _ => none

end

end TemplateTree.Yaml
