import GatewayPrint.Number.DecimalText

/-!
# Calendar dates and times

Dates of the proleptic Gregorian calendar from year 1 to year 9999, and times of day with an
optional offset from UTC, together with the texts in which they are shown.
-/

namespace GatewayPrint

/-- A calendar date. -/
structure Date where
  year : Nat
  month : Nat
  day : Nat
deriving DecidableEq, Repr, Inhabited

/-- A date with a time of day; `offset` is the distance from UTC in seconds, `none` when the time
is local to an unstated place. -/
structure DateTime where
  date : Date
  hour : Nat
  minute : Nat
  second : Nat
  micro : Nat
  offset : Option Int
deriving DecidableEq, Repr, Inhabited

/-- Which component of a date or time is out of range. -/
inductive CalendarFault where
  | year (y : Nat)
  | month
  | day
  | hour
  | minute
  | second
  | offset (seconds : Int)
deriving DecidableEq, Repr

/-- A number in at least `width` digits. -/
def padded (width n : Nat) : List Char :=
  let ds := Nat.toDigits 10 n
  List.replicate (width - ds.length) '0' ++ ds

/-- A span of time as normalised days and seconds, in the form of a nested value. -/
def spanLiteral (seconds : Int) : String :=
  let days := seconds.fdiv 86400
  let rest := seconds.fmod 86400
  let parts := (if days ≠ 0 then ["days=" ++ toString days] else [])
    ++ (if rest ≠ 0 then ["seconds=" ++ toString rest] else [])
  "datetime.timedelta(" ++ (if parts.isEmpty then "0" else ", ".intercalate parts) ++ ")"

def CalendarFault.message : CalendarFault → String
  | .year y => "year " ++ toString y ++ " is out of range"
  | .month => "month must be in 1..12"
  | .day => "day is out of range for month"
  | .hour => "hour must be in 0..23"
  | .minute => "minute must be in 0..59"
  | .second => "second must be in 0..59"
  | .offset s =>
    "offset must be a timedelta strictly between -timedelta(hours=24) and timedelta(hours=24), not "
      ++ spanLiteral s ++ "."

/-- Every fourth year is a leap year, except the centuries that 400 does not divide. -/
def isLeap (y : Nat) : Bool := y % 4 == 0 && (y % 100 != 0 || y % 400 == 0)

def daysIn (y m : Nat) : Nat :=
  if m = 2 then (if isLeap y then 29 else 28)
  else if m = 4 || m = 6 || m = 9 || m = 11 then 30
  else 31

namespace Date

/-- The first component out of range. -/
def check (d : Date) : Option CalendarFault :=
  if d.year < 1 || 9999 < d.year then some (.year d.year)
  else if d.month < 1 || 12 < d.month then some .month
  else if d.day < 1 || daysIn d.year d.month < d.day then some .day
  else none

def iso (d : Date) : String :=
  String.ofList (padded 4 d.year ++ '-' :: padded 2 d.month ++ '-' :: padded 2 d.day)

/-- The text inside another value. -/
def literal (d : Date) : String :=
  "datetime.date(" ++ ", ".intercalate [toString d.year, toString d.month, toString d.day] ++ ")"

/-- Days from the first of January of year 1 to the start of a year. -/
def daysBeforeYear (y : Nat) : Nat :=
  let p := y - 1
  p * 365 + p / 4 - p / 100 + p / 400

/-- Days from the start of the year to the start of a month. -/
def daysBeforeMonth (y m : Nat) : Nat :=
  sumOf ((List.range (m - 1)).map fun k ↦ daysIn y (k + 1))

/-- The number of a day, counted from the first of January of year 1. -/
def ordinal (d : Date) : Nat := daysBeforeYear d.year + daysBeforeMonth d.year d.month + d.day

end Date

namespace DateTime

/-- The first component out of range; the offset is looked at first. -/
def check (t : DateTime) : Option CalendarFault :=
  match t.offset with
  | some s => if s.natAbs < 86400 then rest else some (.offset s)
  | none => rest
where
  /-- The components other than the offset. -/
  rest : Option CalendarFault :=
    t.date.check <|>
      if 23 < t.hour then some .hour
      else if 59 < t.minute then some .minute
      else if 59 < t.second then some .second
      else none

/-- An offset as sign, hours and minutes, and seconds when there are any. -/
def offsetText (s : Int) : List Char :=
  let n := s.natAbs
  (if s < 0 then '-' else '+') :: padded 2 (n / 3600) ++ ':' :: padded 2 (n / 60 % 60)
    ++ (if n % 60 = 0 then [] else ':' :: padded 2 (n % 60))

/-- ISO 8601 text with `sep` between date and time; the fraction is written only when there is
one. -/
def isoWith (sep : Char) (t : DateTime) : String :=
  String.ofList (t.date.iso.toList ++ sep :: padded 2 t.hour ++ ':' :: padded 2 t.minute
    ++ ':' :: padded 2 t.second
    ++ (if t.micro = 0 then [] else '.' :: padded 6 t.micro)
    ++ (match t.offset with | some s => offsetText s | none => []))

def iso (t : DateTime) : String := t.isoWith 'T'

/-- The text of a date and time on its own. -/
def text (t : DateTime) : String := t.isoWith ' '

/-- An offset inside another value. -/
def zoneLiteral (s : Int) : String :=
  if s = 0 then "datetime.timezone.utc" else "datetime.timezone(" ++ spanLiteral s ++ ")"

/-- The text inside another value: trailing zero components are left out. -/
def literal (t : DateTime) : String :=
  let fields := [t.date.year, t.date.month, t.date.day, t.hour, t.minute]
    ++ (if t.second = 0 && t.micro = 0 then [] else [t.second])
    ++ (if t.micro = 0 then [] else [t.micro])
  let zone := match t.offset with
    | some s => ["tzinfo=" ++ zoneLiteral s]
    | none => []
  "datetime.datetime(" ++ ", ".intercalate (fields.map toString ++ zone) ++ ")"

/-- Microseconds since the start of year 1, at UTC when the offset is known. -/
def instant (t : DateTime) : Int :=
  ((((t.date.ordinal * 24 + t.hour) * 60 + t.minute) * 60 + t.second : Nat) : Int) * 1000000
    + t.micro - (t.offset.getD 0) * 1000000

/-- Two times are the same moment when both or neither state an offset and their instants agree. -/
def sameMoment (t u : DateTime) : Bool :=
  t.offset.isSome == u.offset.isSome && t.instant == u.instant

end DateTime

/-! ## Days and seconds -/

/-- The year of a day and the days before it in that year; days are counted from the first of
January of year 1, which is day 0. -/
def yearOfDay (n : Nat) : Nat × Nat :=
  let centuries := min 3 (n % 146097 / 36524)
  let n' := n % 146097 - centuries * 36524
  let years := min 3 (n' % 1461 / 365)
  (n / 146097 * 400 + centuries * 100 + n' / 1461 * 4 + years + 1, n' % 1461 - years * 365)

/-- The month and the day of a month, `n` days after the first of month `m`; `fuel` bounds the
number of months. -/
def monthOfDay (year : Nat) : Nat → Nat → Nat → Nat × Nat
  | 0, m, n => (m, n + 1)
  | fuel + 1, m, n =>
    if n < daysIn year m then (m, n + 1) else monthOfDay year fuel (m + 1) (n - daysIn year m)

def Date.ofDay (n : Nat) : Date :=
  let y := yearOfDay n
  let m := monthOfDay y.1 11 1 y.2
  ⟨y.1, m.1, m.2⟩

/-- The day on which 1970 begins. -/
def epochDay : Nat := 719162

/-- A number of this size or a greater one counts milliseconds. -/
def millisecondsFrom : Nat := 20000000001

/-- The time, at UTC, that lies a number of seconds after the start of 1970; a number of great size
counts milliseconds. -/
def DateTime.ofEpoch? (n : Int) : Option DateTime :=
  let micros := n * (if millisecondsFrom ≤ n.natAbs then 1000 else 1000000)
    + (epochDay * 86400 * 1000000 : Nat)
  if micros < 0 then none
  else
    let micros := micros.toNat
    let seconds := micros / 1000000
    let day := seconds / 86400
    let date := Date.ofDay day
    if 9999 < date.year then none
    else some ⟨date, seconds / 3600 % 24, seconds / 60 % 60, seconds % 60, micros % 1000000, some 0⟩

/-! ## Reading ISO 8601 -/

/-- A number of exactly `n` digits and the rest. -/
def readDigits? (n : Nat) (s : List Char) : Option (Nat × List Char) :=
  let ds := s.take n
  if ds.length = n && ds.all Char.isDigit then some (digitsValue ds, s.drop n) else none

def skipChar? (c : Char) : List Char → Option (List Char)
  | d :: rest => if c = d then some rest else none
  | [] => none

/-- A date `YYYY-MM-DD` and the rest. -/
def readDate? (s : List Char) : Option (Date × List Char) := do
  let (year, s) ← readDigits? 4 s
  let (month, s) ← readDigits? 2 (← skipChar? '-' s)
  let (day, s) ← readDigits? 2 (← skipChar? '-' s)
  some (⟨year, month, day⟩, s)

/-- An offset from UTC that ends the text: nothing, `Z`, or `±HH:MM[:SS]`. -/
def readOffset? : List Char → Option (Option Int)
  | [] => some none
  | ['Z'] | ['z'] => some (some 0)
  | c :: s =>
    if c = '+' || c = '-' then do
      let (h, s) ← readDigits? 2 s
      let (m, s) ← readDigits? 2 (← skipChar? ':' s)
      let sec ← match s with
        | [] => some 0
        | s => (readDigits? 2 (← skipChar? ':' s)).map (·.1)
      let total : Int := ((h * 60 + m) * 60 + sec : Nat)
      some (some (if c = '-' then -total else total))
    else none

/-- The date that an ISO 8601 text names. -/
def Date.ofIso? (s : String) : Option Date :=
  match readDate? s.toList with
  | some (d, []) => some d
  | _ => none

/-- The date and time that an ISO 8601 text names; a fraction has up to six digits. -/
def DateTime.ofIso? (s : String) : Option DateTime := do
  let (date, s) ← readDate? s.toList
  let s := s.drop 1
  if s.isEmpty then return ⟨date, 0, 0, 0, 0, none⟩
  let (hour, s) ← readDigits? 2 s
  let (minute, s) ← readDigits? 2 (← skipChar? ':' s)
  let (second, s) ← match s with
    | ':' :: s => readDigits? 2 s
    | s => some (0, s)
  let (micro, s) := match s with
    | '.' :: s =>
      let ds := s.takeWhile Char.isDigit
      (digitsValue (ds ++ List.replicate (6 - ds.length) '0'), s.dropWhile Char.isDigit)
    | s => (0, s)
  return ⟨date, hour, minute, second, micro, ← readOffset? s⟩

end GatewayPrint
