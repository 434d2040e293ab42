/-!
# Civil time

A moment is a count of seconds since the Unix epoch, read in UTC. Its civil date comes
from the count of days by the proleptic Gregorian calendar, with years that start in
March inside the computation so that the leap day falls last (`civilOfDays`); the time of
day is the remainder of the seconds. Years are written with at least four digits and a
sign when negative. The calendar counts from an origin some 292 billion years back
(`originToEpoch`); a moment before it is shown as the moment 2⁶⁴ seconds later
(`Civil.ofUnix`).

The program prints the current moment in five ways, and elapsed time in one; a
`Reading` holds those six texts. A reading of a known moment is `Reading.ofSeconds`.
-/

namespace HelpMan.Clock

/-- A date and time of day in UTC. -/
structure Civil where
  year : Int
  month : Nat
  day : Nat
  hour : Nat
  minute : Nat
  second : Nat
  deriving DecidableEq, Repr

/-- The civil date of a count of days since 1970-01-01, as year, month and day. -/
def civilOfDays (days : Int) : Int × Nat × Nat :=
  let z := days + 719468
  let era := z / 146097
  let doe := z - era * 146097
  let yoe := (doe - doe / 1460 + doe / 36524 - doe / 146096) / 365
  let doy := doe - (365 * yoe + yoe / 4 - yoe / 100)
  let mp := (5 * doy + 2) / 153
  let d := doy - (153 * mp + 2) / 5 + 1
  let m := if mp < 10 then mp + 3 else mp - 9
  let y := yoe + era * 400 + (if m ≤ 2 then 1 else 0)
  (y, m.toNat, d.toNat)

/-- The civil date and time of a count of seconds since the epoch. -/
def Civil.ofSeconds (t : Int) : Civil :=
  let days := t / 86400
  let secs := (t % 86400).toNat
  let (y, m, d) := civilOfDays days
  ⟨y, m, d, secs / 3600, secs / 60 % 60, secs % 60⟩

/-- The seconds from the calendar's origin, March 1 of the year -292277022400, to the
epoch. The calendar keeps a moment as an unsigned 64-bit count of seconds from its origin,
so a moment before the origin is read 2⁶⁴ seconds later. -/
def originToEpoch : Int := 9223372028741760000

/-- The civil date and time under which the calendar shows a count of seconds since the
epoch: the true one from the origin on, and the one 2⁶⁴ seconds later before it. -/
def Civil.ofUnix (t : Int) : Civil :=
  Civil.ofSeconds (if t + originToEpoch < 0 then t + 18446744073709551616 else t)

/-- `n` in decimal with zeros in front up to `width` digits. -/
def padded (width : Nat) (n : Nat) : String :=
  let s := toString n
  String.ofList (List.replicate (width - s.length) '0') ++ s

/-- A year with at least four digits. -/
def yearText (y : Int) : String :=
  if y < 0 then "-" ++ padded 4 y.natAbs else padded 4 y.toNat

/-- The English abbreviations of the months. -/
def monthAbbrev (m : Nat) : String :=
  (["Jan", "Feb", "Mar", "Apr", "May", "Jun", "Jul", "Aug", "Sep", "Oct", "Nov", "Dec"][m - 1]?).getD ""

namespace Civil

/-- `2006-01-02` -/
def date (c : Civil) : String :=
  yearText c.year ++ "-" ++ padded 2 c.month ++ "-" ++ padded 2 c.day

/-- `15:04:05` -/
def clock (c : Civil) : String :=
  padded 2 c.hour ++ ":" ++ padded 2 c.minute ++ ":" ++ padded 2 c.second

/-- `2006-01-02 15:04:05 +0000` -/
def stamp (c : Civil) : String := c.date ++ " " ++ c.clock ++ " +0000"

/-- `Jan 2006` -/
def monthYear (c : Civil) : String := monthAbbrev c.month ++ " " ++ yearText c.year

/-- `2-Jan-2006` -/
def dayMonthYear (c : Civil) : String :=
  toString c.day ++ "-" ++ monthAbbrev c.month ++ "-" ++ yearText c.year

end Civil

example : (Civil.ofSeconds 951782400).date = "2000-02-29" := by decide +kernel
example : (Civil.ofSeconds (-62135596800)).stamp = "0001-01-01 00:00:00 +0000" := by decide +kernel
example : (Civil.ofSeconds 4102444799).stamp = "2099-12-31 23:59:59 +0000" := by decide +kernel
example : (Civil.ofUnix (-9223372028741760001)).stamp = "292277026854-01-07 07:00:15 +0000" := by
  decide +kernel

/-- The texts the program prints for the current moment and for elapsed time. -/
structure Reading where
  /-- `2006-01-02 15:04:05 +0000` -/
  stamp : String
  /-- `2006-01-02` -/
  date : String
  /-- `15:04:05` -/
  clock : String
  /-- `Jan 2006` -/
  monthYear : String
  /-- `2-Jan-2006` -/
  dayMonthYear : String
  /-- The time an operation took. -/
  elapsed : String
  deriving DecidableEq, Repr

/-- The reading of a moment given in seconds since the epoch, with a text for elapsed time. -/
def Reading.ofSeconds (t : Int) (elapsed : String) : Reading :=
  let c := Civil.ofUnix t
  ⟨c.stamp, c.date, c.clock, c.monthYear, c.dayMonthYear, elapsed⟩

end HelpMan.Clock
