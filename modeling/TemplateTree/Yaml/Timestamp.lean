import TemplateTree.Value

/-!
Timestamps: a date, or a date with a time and perhaps a zone. A blank or a `T` stands between date
and time.
-/
namespace TemplateTree.Yaml

structure WrittenTime where
  hour : Text
  minute : Text
  second : Text
  fraction : Text
  zone : Option Zone

structure Timestamp where
  year : Text
  month : Text
  day : Text
  time : Option WrittenTime

namespace Timestamp

def digits? (least most : Nat) (text : Text) : Option (Text × Text) :=
  let digits := (text.take most).takeWhile Char.isDigit
  if digits.length < least then none else some (digits, text.drop digits.length)

def twoBehind? (mark : Char) (text : Text) : Option (Text × Text) := do
  let rest ← text.dropPrefix? [mark]
  digits? 2 2 rest

def zone? (text : Text) : Option Zone :=
  match text with
  | ['Z'] => some ⟨0, text⟩
  | sign :: rest => do
      if sign ≠ '+' ∧ sign ≠ '-' then none
      let (hours, rest) ← digits? 1 2 rest
      let (minutes, rest) ← if rest = [] then some ([], []) else twoBehind? ':' rest
      if rest ≠ [] then none
      let size : Int := Text.digitsValue hours * 60 + Text.digitsValue minutes
      return ⟨if sign = '-' then -size else size, text⟩
  | [] => none

def time? (text : Text) : Option WrittenTime := do
  let (hour, rest) ← digits? 1 2 text
  let (minute, rest) ← twoBehind? ':' rest
  let (second, rest) ← twoBehind? ':' rest
  let (fraction, rest) := match rest with
    | '.' :: rest => (rest.takeWhile Char.isDigit, rest.dropWhile Char.isDigit)
    | rest => ([], rest)
  let zone ← if rest = [] then some none
    else (zone? (rest.dropWhile fun c => c = ' ' || c = '\t')).map some
  return ⟨hour, minute, second, fraction, zone⟩

def read? (text : Text) : Option Timestamp := do
  let (year, rest) ← digits? 4 4 text
  let (month, rest) ← digits? 1 2 (← rest.dropPrefix? ['-'])
  let (day, rest) ← digits? 1 2 (← rest.dropPrefix? ['-'])
  match rest with
  | [] => return ⟨year, month, day, none⟩
  | c :: more =>
      let behind := rest.dropWhile fun c => c = ' ' || c = '\t'
      if c = 'T' ∨ c = 't' then return ⟨year, month, day, some (← time? more)⟩
      else if behind.length < rest.length then
        return ⟨year, month, day, some (← time? behind)⟩
      else none

def isPlain (timestamp : Timestamp) : Bool :=
  timestamp.time.isSome || (timestamp.month.length = 2 && timestamp.day.length = 2)

def date (timestamp : Timestamp) : Except MomentError Date :=
  Date.ofNumbers (Text.digitsValue timestamp.year) (Text.digitsValue timestamp.month)
    (Text.digitsValue timestamp.day)

def microseconds (fraction : Text) : Nat :=
  let kept := Text.digitsValue (fraction.take 6 ++ List.replicate (6 - fraction.length) '0')
  if fraction[6]?.any fun c => '5' ≤ c then kept + 1 else kept

def moment (date : Date) (time : WrittenTime) (zone : Option Zone) : Except MomentError Moment := do
  let microseconds := microseconds time.fraction
  let carries := 999999 < microseconds
  let moment ← Moment.checked
    { date := date
      hour := Text.digitsValue time.hour
      minute := Text.digitsValue time.minute
      second := Text.digitsValue time.second
      microsecond := if carries then 0 else microseconds
      zone := zone }
  if carries then moment.next else return moment

def value (timestamp : Timestamp) : Except MomentError Value := do
  match timestamp.time with
  | none => return .date (← timestamp.date)
  | some time =>
      let zone ← match time.zone with
        | some zone => (Zone.ofMinutes zone.minutes zone.name).map some
        | none => pure none
      let date ← timestamp.date
      return .moment (← moment date time zone)

end Timestamp

end TemplateTree.Yaml
