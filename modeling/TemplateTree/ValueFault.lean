import TemplateTree.Moment

/-!
Faults of values: texts that have the form of a number, a boolean or a moment and name none, keys
that cannot be told apart or put in order, and numbers that are too long to write.
-/
namespace TemplateTree

inductive ValueFault where
  | notInteger (base : Nat) (written : Text)
  | integerTooLong (digits : Nat)
  | integerUnwritable
  | emptyNumber
  | notReal (written : Text)
  | notBoolean (written : Text)
  | moment (error : MomentError)
  | noCharacter
  | codeTooLong
  | changeableKey (kind : Text)
  | repeatedKey
  | incomparable (first second : Text)
  | incomparableZones
  | unknownVersion (major minor : Nat)
deriving DecidableEq

namespace ValueFault

def digitLimit : Nat := 4300

def quoteLimit : Nat := 200

def message : ValueFault → Text
  | notInteger base written =>
      "invalid literal for int() with base ".toList ++ Text.ofNat base ++ ": ".toList ++
        written.quoted.take quoteLimit
  | integerTooLong digits =>
      "Exceeds the limit (4300 digits) for integer string conversion: value has ".toList ++
        Text.ofNat digits ++
        " digits; use sys.set_int_max_str_digits() to increase the limit".toList
  | integerUnwritable =>
      ("Exceeds the limit (4300 digits) for integer string conversion; " ++
        "use sys.set_int_max_str_digits() to increase the limit").toList
  | emptyNumber => "string index out of range".toList
  | notReal written => "could not convert string to float: ".toList ++ written.quoted
  | notBoolean written => written.quoted
  | moment error => error.message
  | noCharacter => "chr() arg not in range(0x110000)".toList
  | codeTooLong => "Python int too large to convert to C int".toList
  | changeableKey kind => "unhashable type: ".toList ++ kind.quoted
  | repeatedKey => []
  | incomparable first second =>
      "'<' not supported between instances of ".toList ++ first.quoted ++ " and ".toList ++
        second.quoted
  | incomparableZones => "can't compare offset-naive and offset-aware datetimes".toList
  | unknownVersion major minor =>
      '(' :: (Text.ofNat major ++ ", ".toList ++ Text.ofNat minor ++ [')'])

end ValueFault

end TemplateTree
