import TemplateTree.Decimal
import TemplateTree.ValueFault

/-!
Values of configuration files, their texts, and the order of those that are keys.
-/
namespace TemplateTree

inductive CollectionShape where
  | sequence
  | set
  | mapping
  | orderedMapping

namespace CollectionShape

def kind : CollectionShape → Text
  | sequence => "list".toList
  | set => "set".toList
  | mapping => "dict".toList
  | orderedMapping => "ordereddict".toList

def mark : CollectionShape → Text
  | sequence => "[...]".toList
  | set => "set(...)".toList
  | mapping => "\x7b...\x7d".toList
  | orderedMapping => "...".toList

end CollectionShape

/-- A value of a configuration. The keys of a mapping are values too; they stand in order. A
recurrence is a collection that holds itself, at the place inside it where it comes again: with the
number of collections that stand between the two, tuples apart, and with the kind of the
collection. -/
inductive Value where
  | null
  | boolean (value : Bool)
  | integer (value : Int)
  | real (value : Binary)
  | text (value : Text)
  | bytes (value : List UInt8)
  | date (value : Date)
  | moment (value : Moment)
  | sequence (items : List Value)
  | tuple (items : List Value)
  | set (items : List Value)
  | mapping (entries : List (Value × Value))
  | orderedMapping (entries : List (Value × Value))
  | recurrence (up : Nat) (shape : CollectionShape)

namespace Value

def isFalsy : Value → Bool
  | null => true
  | boolean value => !value
  | integer value => value = 0
  | real value => value.isZero
  | text value => value = []
  | bytes value => value = []
  | date _ => false
  | moment _ => false
  | sequence items => items.isEmpty
  | tuple items => items.isEmpty
  | set items => items.isEmpty
  | mapping entries => entries.isEmpty
  | orderedMapping entries => entries.isEmpty
  | recurrence _ _ => false

def nonemptyText? : Value → Option Text
  | text (c :: rest) => some (c :: rest)
  | _ => none

def entries? : Value → Option (List (Value × Value))
  | mapping entries => some entries
  | orderedMapping entries => some entries
  | _ => none

def kind : Value → Text
  | null => "NoneType".toList
  | boolean _ => "bool".toList
  | integer _ => "int".toList
  | real _ => "float".toList
  | text _ => "str".toList
  | bytes _ => "bytes".toList
  | date _ => "datetime.date".toList
  | moment _ => "datetime.datetime".toList
  | sequence _ => CollectionShape.sequence.kind
  | tuple _ => "tuple".toList
  | set _ => CollectionShape.set.kind
  | mapping _ => CollectionShape.mapping.kind
  | orderedMapping _ => CollectionShape.orderedMapping.kind
  | recurrence _ shape => shape.kind

/-! ## Texts -/

def byteText (bytes : List UInt8) : Text := bytes.map fun byte => Char.ofNat byte.toNat

def describeByte (quote : Char) (byte : UInt8) : Text :=
  if byte < 0x80 then Text.escaped quote (Char.ofNat byte.toNat)
  else '\\' :: 'x' :: Text.hexDigits 2 byte.toNat

def describeBytes (bytes : List UInt8) : Text :=
  let quote := Text.quoteFor (byteText bytes)
  'b' :: quote :: (bytes.flatMap (describeByte quote) ++ [quote])

mutual

def describe : Value → Text
  | null => "None".toList
  | boolean true => "True".toList
  | boolean false => "False".toList
  | integer value => Text.ofInt value
  | real value => value.toText
  | text value => value.quoted
  | bytes value => describeBytes value
  | date value => value.describe
  | moment value => value.describe
  | sequence items => '[' :: (Text.joined [',', ' '] (describeItems items) ++ [']'])
  | tuple [item] => '(' :: (describe item ++ [',', ')'])
  | tuple items => '(' :: (Text.joined [',', ' '] (describeItems items) ++ [')'])
  | set [] => "set()".toList
  | set items => '\x7b' :: (Text.joined [',', ' '] (describeItems items) ++ ['\x7d'])
  | mapping entries => '\x7b' :: (Text.joined [',', ' '] (describeEntries entries) ++ ['\x7d'])
  | orderedMapping [] => "ordereddict()".toList
  | orderedMapping entries =>
      "ordereddict([".toList ++ Text.joined [',', ' '] (describePairs entries) ++ [']', ')']
  | recurrence _ shape => shape.mark

def describeItems : List Value → List Text
  | [] => []
  | item :: items => describe item :: describeItems items

def describeEntries : List (Value × Value) → List Text
  | [] => []
  | entry :: entries => describeEntry entry :: describeEntries entries

def describeEntry : Value × Value → Text
  | (key, value) => describe key ++ ':' :: ' ' :: describe value

def describePairs : List (Value × Value) → List Text
  | [] => []
  | entry :: entries => describePair entry :: describePairs entries

def describePair : Value × Value → Text
  | (key, value) => '(' :: (describe key ++ ',' :: ' ' :: (describe value ++ [')']))

end

def toText : Value → Text
  | text value => value
  | date value => value.toText
  | moment value => value.toText
  | value => value.describe

mutual

def isUnwritable : Value → Bool
  | integer value => ValueFault.digitLimit < (Text.ofNat value.natAbs).length
  | sequence items => anyUnwritable items
  | tuple items => anyUnwritable items
  | set items => anyUnwritable items
  | mapping entries => anyEntryUnwritable entries
  | orderedMapping entries => anyEntryUnwritable entries
  | _ => false

def anyUnwritable : List Value → Bool
  | [] => false
  | item :: items => isUnwritable item || anyUnwritable items

def anyEntryUnwritable : List (Value × Value) → Bool
  | [] => false
  | entry :: entries => isEntryUnwritable entry || anyEntryUnwritable entries

def isEntryUnwritable : Value × Value → Bool
  | (key, value) => isUnwritable key || isUnwritable value

end

/-! ## Keys -/

/-- The number that a value counts as, as a numerator and a denominator. The denominator of an
infinity is zero. -/
def quotient? : Value → Option (Int × Nat)
  | boolean value => some (if value then 1 else 0, 1)
  | integer value => some (value, 1)
  | real (.finite negative mantissa exponent) =>
      let size : Int := mantissa * twoTo exponent
      some (if negative then -size else size, twoTo (-exponent))
  | real (.infinite negative) => some (if negative then -1 else 1, 0)
  | _ => none

def compareQuotients (first second : Int × Nat) : Ordering :=
  if first.2 = 0 ∧ second.2 = 0 then compare first.1 second.1
  else compare (first.1 * second.2) (second.1 * first.2)

mutual

def isSameKey : Value → Value → Bool
  | text first, text second => first = second
  | text _, _ => false
  | _, text _ => false
  | null, null => true
  | bytes first, bytes second => first = second
  | date first, date second => first = second
  | moment first, moment second =>
      first.zone.isSome = second.zone.isSome && first.microseconds = second.microseconds
  | tuple first, tuple second => areSameKeys first second
  | real .undefined, real .undefined => true
  | first, second =>
      match first.quotient?, second.quotient? with
      | some first, some second => compareQuotients first second = .eq
      | _, _ => false

def areSameKeys : List Value → List Value → Bool
  | [], [] => true
  | first :: firsts, second :: seconds => isSameKey first second && areSameKeys firsts seconds
  | _, _ => false

end

def lookup? (entries : List (Value × Value)) (key : Text) : Option Value :=
  (entries.find? (·.1.isSameKey (text key))).map Prod.snd

mutual

/-- Whether a key stands before another one: numbers by size, texts by their code points, moments by
time, and tuples by the first of their items that differ. -/
def isBefore : Value → Value → Except ValueFault Bool
  | text first, text second => .ok (!second.isUpTo first)
  | bytes first, bytes second => .ok (!(byteText second).isUpTo (byteText first))
  | date first, date second => .ok (first.dayNumber < second.dayNumber)
  | moment first, moment second =>
      if first.zone.isSome = second.zone.isSome then .ok (first.microseconds < second.microseconds)
      else .error .incomparableZones
  | tuple first, tuple second => areBefore first second
  | first, second =>
      match first.quotient?, second.quotient? with
      | some first, some second => .ok (compareQuotients first second = .lt)
      | _, _ => .error (.incomparable first.kind second.kind)

def areBefore : List Value → List Value → Except ValueFault Bool
  | _, [] => .ok false
  | [], _ :: _ => .ok true
  | first :: firsts, second :: seconds =>
      if isSameKey first second then areBefore firsts seconds else isBefore first second

end

def neighbourFault? : List Value → Option ValueFault
  | first :: second :: rest =>
      match second.isBefore first with
      | .error fault => some fault
      | .ok _ => neighbourFault? (second :: rest)
  | _ => none

def orderFault? (keys : List Value) : Option ValueFault :=
  let (numbers, others) := keys.partition fun key => key.quotient?.isSome
  neighbourFault? (numbers ++ others)

def keyLe (first second : Value) : Bool :=
  match second.isBefore first with
  | .ok isBefore => !isBefore
  | .error _ => true

end Value

end TemplateTree
