import Flowchart.Yaml.Implicit

/-!
# Dates and times

A date, with a time of day and an offset from universal time if they were given.
-/

namespace Flowchart.Yaml

structure Clock where
  hour : Nat
  minute : Nat
  second : Nat
  microsecond : Nat
  offset : Option Int
  deriving DecidableEq, Repr

structure Moment where
  year : Nat
  month : Nat
  day : Nat
  clock : Option Clock
  deriving DecidableEq, Repr

namespace Moment

def isLeap (year : Nat) : Bool := year % 4 == 0 && (year % 100 != 0 || year % 400 == 0)

def daysIn (year month : Nat) : Nat :=
  if month == 2 then if isLeap year then 29 else 28
  else if month == 4 || month == 6 || month == 9 || month == 11 then 30
  else 31

def microseconds (digits : Text) : Nat :=
  let kept := digits.take 6
  Text.natOfDigits (kept ++ List.replicate (6 - kept.length) '0')

def spanText (seconds : Int) : Text :=
  let days := seconds.fdiv 86400
  let rest := seconds.fmod 86400
  let parts :=
    (if days == 0 then [] else ["days=".toList ++ Text.ofInt days]) ++
      (if rest == 0 then [] else ["seconds=".toList ++ Text.ofInt rest])
  let shown := if parts.isEmpty then [['0']] else parts
  "datetime.timedelta(".toList ++ Text.join ", ".toList shown ++ [')']

def offsetOf (zone : Option Char × Text × Text) : Except Fault Int :=
  let (sign, hours, minutes) := zone
  let seconds : Int := 3600 * Text.natOfDigits hours + 60 * Text.natOfDigits minutes
  let signed := if sign == some '-' then -seconds else seconds
  if seconds < 86400 then .ok signed
  else
    .error (.badDate ("offset must be a timedelta strictly between ".toList ++
      "-timedelta(hours=24) and timedelta(hours=24), not ".toList ++ spanText signed ++ ['.']))

def checkDate (year month day : Nat) : Except Fault Unit :=
  if year == 0 then .error (.badDate "year 0 is out of range".toList)
  else if month == 0 || month > 12 then .error (.badDate "month must be in 1..12".toList)
  else if day == 0 || day > daysIn year month then
    .error (.badDate "day is out of range for month".toList)
  else .ok ()

def checkTime (hour minute second : Nat) : Except Fault Unit :=
  if hour > 23 then .error (.badDate "hour must be in 0..23".toList)
  else if minute > 59 then .error (.badDate "minute must be in 0..59".toList)
  else if second > 59 then .error (.badDate "second must be in 0..59".toList)
  else .ok ()

def ofStamp (stamp : Stamp) : Except Fault Moment := do
  let year := Text.natOfDigits stamp.year
  let month := Text.natOfDigits stamp.month
  let day := Text.natOfDigits stamp.day
  match stamp.time with
  | none => do
    checkDate year month day
    return ⟨year, month, day, none⟩
  | some (h, m, s, fraction) => do
    let offset ← stamp.zone.mapM offsetOf
    checkDate year month day
    let hour := Text.natOfDigits h
    let minute := Text.natOfDigits m
    let second := Text.natOfDigits s
    checkTime hour minute second
    return ⟨year, month, day, some ⟨hour, minute, second, microseconds fraction, offset⟩⟩

def dayNumber (t : Moment) : Int :=
  let before := t.year - 1
  let leapDays := before / 4 - before / 100 + before / 400
  let months := (List.range (t.month - 1)).foldl (fun days m => days + daysIn t.year (m + 1)) 0
  (365 * t.year + leapDays + months + t.day : Nat)

def instant (t : Moment) (c : Clock) (offset : Int) : Int :=
  let seconds := 86400 * t.dayNumber + 3600 * c.hour + 60 * c.minute + c.second - offset
  1000000 * seconds + c.microsecond

/-- Times with offsets are the same if they name the same instant. -/
def same (s t : Moment) : Bool :=
  match s.clock, t.clock with
  | some c, some d =>
    match c.offset, d.offset with
    | some o, some p => s.instant c o == t.instant d p
    | _, _ => s == t
  | _, _ => s == t

def padded (width n : Nat) : Text := Text.padLeft width '0' (Text.ofNat n)

def offsetText (offset : Int) : Text :=
  let minutes := offset.natAbs / 60
  (if offset < 0 then '-' else '+') :: padded 2 (minutes / 60) ++ ':' :: padded 2 (minutes % 60)

def display (t : Moment) : Text :=
  let date := padded 4 t.year ++ '-' :: padded 2 t.month ++ '-' :: padded 2 t.day
  match t.clock with
  | none => date
  | some c =>
    date ++ ' ' :: padded 2 c.hour ++ ':' :: padded 2 c.minute ++ ':' :: padded 2 c.second ++
      (if c.microsecond == 0 then [] else '.' :: padded 6 c.microsecond) ++
      (c.offset.map offsetText).getD []

def zoneText (offset : Int) : Text :=
  if offset == 0 then "datetime.timezone.utc".toList
  else "datetime.timezone(".toList ++ spanText offset ++ [')']

def nested (t : Moment) : Text :=
  let numbers := fun (ns : List Nat) => Text.join ", ".toList (ns.map Text.ofNat)
  match t.clock with
  | none => "datetime.date(".toList ++ numbers [t.year, t.month, t.day] ++ [')']
  | some c =>
    let small :=
      if c.microsecond != 0 then [c.second, c.microsecond]
      else if c.second != 0 then [c.second]
      else []
    "datetime.datetime(".toList ++ numbers ([t.year, t.month, t.day, c.hour, c.minute] ++ small) ++
      ((c.offset.map fun o => ", tzinfo=".toList ++ zoneText o).getD []) ++ [')']

end Moment

end Flowchart.Yaml
