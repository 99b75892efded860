import ReplicaRouting.Time.Instant

/-!
How lengths and points of time are written. A length takes the largest of the units second,
millisecond, microsecond and nanosecond that it fills. A point in time is written as date and time
of the proleptic Gregorian calendar.
-/

namespace ReplicaRouting

namespace Text

/-- The digits of `n`, with zeros in front up to `width` places. -/
def zeroPadded (width n : Nat) : List Char :=
  let digits := Nat.toDigits 10 n
  List.replicate (width - digits.length) '0' ++ digits

/-- A point and the digits of a fraction of `width` places without the zeros at its end, or nothing
for a whole number. -/
def shortFraction (width n : Nat) : List Char :=
  if n = 0 then []
  else '.' :: ((zeroPadded width n).reverse.dropWhile (· == '0')).reverse

end Text

namespace Span

/-- The text in one unit: its whole part, the fraction of `places` digits, and the unit's name. -/
def inUnit (whole fraction places : Nat) (unit : String) : String :=
  String.ofList (Nat.toDigits 10 whole ++ Text.shortFraction places fraction) ++ unit

/-- The length in the largest unit that it fills, with as many decimal places as it needs. -/
def text (d : Span) : String :=
  if d.nanos ≥ 1_000_000_000 then inUnit (d.nanos / 1_000_000_000) (d.nanos % 1_000_000_000) 9 "s"
  else if d.nanos ≥ 1_000_000 then inUnit (d.nanos / 1_000_000) (d.nanos % 1_000_000) 6 "ms"
  else if d.nanos ≥ 1_000 then inUnit (d.nanos / 1_000) (d.nanos % 1_000) 3 "µs"
  else inUnit d.nanos 0 0 "ns"

end Span

/-- A day of the Gregorian calendar; the year before year 1 is year 0. -/
structure CivilDate where
  year : Int
  month : Nat
  day : Nat
deriving DecidableEq, Repr

namespace CivilDate

/-- The date a number of days after the start of 1970. Years are counted from March, so that the
leap day is the last of its year, in cycles of 400 years. -/
def ofDays (days : Int) : CivilDate :=
  let shifted := days + 719468
  let cycle := shifted / 146097
  let dayOfCycle := (shifted % 146097).toNat
  let yearOfCycle :=
    (dayOfCycle - dayOfCycle / 1460 + dayOfCycle / 36524 - dayOfCycle / 146096) / 365
  let dayOfYear := dayOfCycle - (365 * yearOfCycle + yearOfCycle / 4 - yearOfCycle / 100)
  let monthFromMarch := (5 * dayOfYear + 2) / 153
  let month := if monthFromMarch < 10 then monthFromMarch + 3 else monthFromMarch - 9
  { year := cycle * 400 + yearOfCycle + (if month ≤ 2 then 1 else 0)
    month := month
    day := dayOfYear - (153 * monthFromMarch + 2) / 5 + 1 }

/-- The year in four digits, with a sign if it has not just four digits. -/
def yearText (year : Int) : List Char :=
  let digits := Text.zeroPadded 4 year.natAbs
  if year < 0 then '-' :: digits
  else if year > 9999 then '+' :: digits
  else digits

/-- Year, month and day. -/
def text (date : CivilDate) : List Char :=
  yearText date.year ++ ['-'] ++ Text.zeroPadded 2 date.month ++ ['-'] ++
    Text.zeroPadded 2 date.day

end CivilDate

namespace Instant

/-- The fraction of a second in 3, 6 or 9 digits, the fewest that are exact; none for a whole
second. -/
def fractionText (nanos : Nat) : List Char :=
  if nanos = 0 then []
  else if nanos % 1_000_000 = 0 then '.' :: Text.zeroPadded 3 (nanos / 1_000_000)
  else if nanos % 1_000 = 0 then '.' :: Text.zeroPadded 6 (nanos / 1_000)
  else '.' :: Text.zeroPadded 9 nanos

/-- Date and time of day. -/
def text (t : Instant) : String :=
  let secondOfDay := (t.seconds % 86400).toNat
  String.ofList
    ((CivilDate.ofDays (t.seconds / 86400)).text ++ [' '] ++
      Text.zeroPadded 2 (secondOfDay / 3600) ++ [':'] ++
      Text.zeroPadded 2 (secondOfDay / 60 % 60) ++ [':'] ++
      Text.zeroPadded 2 (secondOfDay % 60) ++ fractionText t.subseconds) ++ " UTC"

end Instant

end ReplicaRouting
