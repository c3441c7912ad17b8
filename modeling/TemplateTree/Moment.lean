import TemplateTree.Text.Digit
import TemplateTree.Text.Quoted

/-!
Dates, and moments of a date with the time zone in which they are told.
-/
namespace TemplateTree

structure Date where
  year : Nat
  month : Nat
  day : Nat
deriving DecidableEq

structure Zone where
  minutes : Int
  name : Text
deriving DecidableEq

structure Moment where
  date : Date
  hour : Nat
  minute : Nat
  second : Nat
  microsecond : Nat := 0
  zone : Option Zone := none
deriving DecidableEq

inductive MomentError where
  | year (number : Nat)
  | month
  | day
  | hour
  | minute
  | second
  /-- The clocks of the zone are ahead or behind by a day or more. -/
  | zone (minutes : Int)
  | tooLate
deriving DecidableEq

def describeSpan (minutes : Int) : Text :=
  let days := minutes / 1440
  let seconds := minutes % 1440 * 60
  let parts :=
    (if days = 0 then [] else ["days=".toList ++ Text.ofInt days]) ++
      if seconds = 0 then [] else ["seconds=".toList ++ Text.ofInt seconds]
  "datetime.timedelta(".toList ++
    Text.joined [',', ' '] (if parts = [] then [['0']] else parts) ++ [')']

def MomentError.message : MomentError → Text
  | year number => "year ".toList ++ Text.ofNat number ++ " is out of range".toList
  | month => "month must be in 1..12".toList
  | day => "day is out of range for month".toList
  | hour => "hour must be in 0..23".toList
  | minute => "minute must be in 0..59".toList
  | second => "second must be in 0..59".toList
  | zone minutes =>
      "offset must be a timedelta strictly between -timedelta(hours=24) and ".toList ++
        "timedelta(hours=24), not ".toList ++ describeSpan minutes ++ ['.']
  | tooLate => "date value out of range".toList

namespace Date

def daysOfMonth (year month : Nat) : Nat :=
  if month = 2 then
    if year % 4 = 0 ∧ (year % 100 ≠ 0 ∨ year % 400 = 0) then 29 else 28
  else if [4, 6, 9, 11].contains month then 30
  else 31

def ofNumbers (year month day : Nat) : Except MomentError Date :=
  if year = 0 ∨ 9999 < year then .error (.year year)
  else if month = 0 ∨ 12 < month then .error .month
  else if day = 0 ∨ daysOfMonth year month < day then .error .day
  else .ok ⟨year, month, day⟩

def next (date : Date) : Except MomentError Date :=
  if date.day < daysOfMonth date.year date.month then .ok { date with day := date.day + 1 }
  else if date.month < 12 then .ok { date with month := date.month + 1, day := 1 }
  else if date.year < 9999 then .ok ⟨date.year + 1, 1, 1⟩
  else .error .tooLate

def dayNumber (date : Date) : Nat :=
  let years := date.year - 1
  let months := (List.range (date.month - 1)).map fun month => daysOfMonth date.year (month + 1)
  years * 365 + years / 4 - years / 100 + years / 400 + months.foldl (· + ·) 0 + date.day - 1

def parts (date : Date) : List Text :=
  [Text.ofNat date.year, Text.ofNat date.month, Text.ofNat date.day]

def describe (date : Date) : Text :=
  "datetime.date(".toList ++ Text.joined [',', ' '] date.parts ++ [')']

def toText (date : Date) : Text :=
  Text.joined ['-'] [Text.padded 4 date.year, Text.padded 2 date.month, Text.padded 2 date.day]

end Date

namespace Zone

def ofMinutes (minutes : Int) (name : Text) : Except MomentError Zone :=
  if minutes.natAbs < 1440 then .ok ⟨minutes, name⟩ else .error (.zone minutes)

def describe (zone : Zone) : Text :=
  "datetime.timezone(".toList ++
    Text.joined [',', ' '] [describeSpan zone.minutes, zone.name.quoted] ++ [')']

def toText (zone : Zone) : Text :=
  let size := zone.minutes.natAbs
  (if zone.minutes < 0 then '-' else '+') ::
    (Text.padded 2 (size / 60) ++ ':' :: Text.padded 2 (size % 60))

end Zone

namespace Moment

def checked (moment : Moment) : Except MomentError Moment :=
  if 23 < moment.hour then .error .hour
  else if 59 < moment.minute then .error .minute
  else if 59 < moment.second then .error .second
  else .ok moment

def next (moment : Moment) : Except MomentError Moment :=
  if moment.second < 59 then .ok { moment with second := moment.second + 1 }
  else if moment.minute < 59 then .ok { moment with minute := moment.minute + 1, second := 0 }
  else if moment.hour < 23 then
    .ok { moment with hour := moment.hour + 1, minute := 0, second := 0 }
  else moment.date.next.map fun date => { moment with date, hour := 0, minute := 0, second := 0 }

/-- The microseconds from the first date to this moment, by the clocks without a zone or by those
of the prime meridian. -/
def microseconds (moment : Moment) : Int :=
  let minutes : Int := (moment.date.dayNumber * 24 + moment.hour) * 60 + moment.minute
  let ahead := (moment.zone.map Zone.minutes).getD 0
  ((minutes - ahead) * 60 + moment.second) * 1000000 + moment.microsecond

def describe (moment : Moment) : Text :=
  let fraction := if moment.microsecond = 0 then [] else [Text.ofNat moment.microsecond]
  let seconds :=
    if moment.second = 0 ∧ fraction = [] then [] else Text.ofNat moment.second :: fraction
  let zone := match moment.zone with
    | some zone => ["tzinfo=".toList ++ zone.describe]
    | none => []
  "datetime.datetime(".toList ++
    Text.joined [',', ' '] (moment.date.parts ++
      [Text.ofNat moment.hour, Text.ofNat moment.minute] ++ seconds ++ zone) ++ [')']

def toText (moment : Moment) : Text :=
  let time := Text.joined [':'] (
    [Text.padded 2 moment.hour, Text.padded 2 moment.minute, Text.padded 2 moment.second])
  let fraction :=
    if moment.microsecond = 0 then [] else '.' :: Text.padded 6 moment.microsecond
  let zone := match moment.zone with
    | some zone => zone.toText
    | none => []
  moment.date.toText ++ ' ' :: (time ++ fraction ++ zone)

end Moment

end TemplateTree
