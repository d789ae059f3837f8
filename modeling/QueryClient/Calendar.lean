import QueryClient.Text.Split

/-!
# Dates and times

Calendar dates, times of day and instants, read and written in the ISO 8601 form.
-/

namespace QueryClient

structure Date where
  year : Nat
  month : Nat
  day : Nat
deriving Repr, DecidableEq

/-- A time of day, with a distance from universal time in seconds when one is known. -/
structure TimeOfDay where
  hour : Nat
  minute : Nat
  second : Nat
  microsecond : Nat
  offset : Option Int
deriving Repr, DecidableEq

structure DateTime where
  date : Date
  time : TimeOfDay
deriving Repr, DecidableEq

/-! ## Writing -/

/-- A number with zeros in front up to a width. -/
def padded (width n : Nat) : String :=
  let digits := (toString n).toList
  String.ofList (List.replicate (width - digits.length) '0' ++ digits)

/-- The date as year, month and day. -/
def Date.iso (d : Date) : String :=
  padded 4 d.year ++ "-" ++ padded 2 d.month ++ "-" ++ padded 2 d.day

/-- Hours, minutes and seconds. -/
def TimeOfDay.clock (t : TimeOfDay) : String :=
  padded 2 t.hour ++ ":" ++ padded 2 t.minute ++ ":" ++ padded 2 t.second

/-- A distance from universal time; seconds are shown when there are any. -/
def offsetText (seconds : Int) : String :=
  let n := seconds.natAbs
  (if seconds < 0 then "-" else "+") ++ padded 2 (n / 3600) ++ ":" ++ padded 2 (n / 60 % 60)
    ++ (if n % 60 == 0 then "" else ":" ++ padded 2 (n % 60))

/-- The time with its fraction and its distance from universal time, where it has them. -/
def TimeOfDay.iso (t : TimeOfDay) : String :=
  t.clock ++ (if t.microsecond == 0 then "" else "." ++ padded 6 t.microsecond)
    ++ (t.offset.map offsetText).getD ""

/-- Date and time with the given text between. -/
def DateTime.isoWith (separator : String) (d : DateTime) : String :=
  d.date.iso ++ separator ++ d.time.iso

/-- Date and time in the ISO form. -/
def DateTime.iso (d : DateTime) : String :=
  d.isoWith "T"

/-- Date and time to the second, the year without zeros in front. -/
def DateTime.stamp (d : DateTime) : String :=
  toString d.date.year ++ "-" ++ padded 2 d.date.month ++ "-" ++ padded 2 d.date.day ++ " "
    ++ d.time.clock

/-! ## Reading -/

/-- The number of exactly `width` digits in front, and the rest. -/
def takeNumber? (width : Nat) (cs : List Char) : Option (Nat × List Char) :=
  let digits := cs.take width
  if digits.length == width && digits.all Char.isDigit then
    some (digits.foldl (fun n c => n * 10 + (c.toNat - 48)) 0, cs.drop width)
  else none

def takeNumberAfter? (separator : Char) (width : Nat) : List Char → Option (Nat × List Char)
  | c :: rest => if c == separator then takeNumber? width rest else none
  | [] => none

def daysInMonth (year month : Nat) : Nat :=
  if month == 2 then
    if year % 4 == 0 && (year % 100 != 0 || year % 400 == 0) then 29 else 28
  else if month == 4 || month == 6 || month == 9 || month == 11 then 30 else 31

/-- A date in front, and the rest. -/
def takeDate? (cs : List Char) : Option (Date × List Char) := do
  let (year, cs) ← takeNumber? 4 cs
  let (month, cs) ← takeNumberAfter? '-' 2 cs
  let (day, cs) ← takeNumberAfter? '-' 2 cs
  guard (1 ≤ year && 1 ≤ month && month ≤ 12 && 1 ≤ day && day ≤ daysInMonth year month)
  return (⟨year, month, day⟩, cs)

/-- Microseconds of a fraction in front, and the rest. -/
def takeFraction (cs : List Char) : Nat × List Char :=
  match cs with
  | c :: rest =>
    if c == '.' || c == ',' then
      let digits := rest.takeWhile Char.isDigit
      let six := (digits ++ List.replicate 6 '0').take 6
      (six.foldl (fun n c => n * 10 + (c.toNat - 48)) 0, rest.dropWhile Char.isDigit)
    else (0, cs)
  | [] => (0, [])

/-- Hour and minute, and the second when there is one. -/
def takeClock? (cs : List Char) : Option ((Nat × Nat × Nat) × List Char) := do
  let (hour, cs) ← takeNumber? 2 cs
  let (minute, cs) ← takeNumberAfter? ':' 2 cs
  match takeNumberAfter? ':' 2 cs with
  | some (second, cs) => return ((hour, minute, second), cs)
  | none => return ((hour, minute, 0), cs)

/-- A distance from universal time, or nothing. -/
def offsetOf? : List Char → Option (Option Int)
  | [] => some none
  | ['Z'] => some (some 0)
  | sign :: rest => do
    guard (sign == '+' || sign == '-')
    let ((hour, minute, second), rest) ← takeClock? rest
    guard rest.isEmpty
    let seconds : Int := hour * 3600 + minute * 60 + second
    return some (if sign == '-' then -seconds else seconds)

/-- A time of day in the ISO form. -/
def timeOfChars? (cs : List Char) : Option TimeOfDay := do
  let ((hour, minute, second), cs) ← takeClock? cs
  guard (hour < 24 && minute < 60 && second < 60)
  let (microsecond, cs) := takeFraction cs
  let offset ← offsetOf? cs
  return ⟨hour, minute, second, microsecond, offset⟩

/-- A date in the ISO form. -/
def Date.ofIso? (s : String) : Option Date :=
  match takeDate? s.toList with
  | some (date, []) => some date
  | _ => none

/-- A time of day in the ISO form. -/
def TimeOfDay.ofIso? (s : String) : Option TimeOfDay :=
  timeOfChars? s.toList

/-- A date and a time in the ISO form; the time may be left out. -/
def DateTime.ofIso? (s : String) : Option DateTime :=
  match takeDate? s.toList with
  | some (date, []) => some ⟨date, ⟨0, 0, 0, 0, none⟩⟩
  | some (date, _ :: rest) => (timeOfChars? rest).map (⟨date, ·⟩)
  | none => none

end QueryClient
