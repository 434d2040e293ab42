import HelpMan.Clock.Civil

/-!
# Moments by a format

A format writes a moment (seconds since the epoch, read in UTC) through directives: `%`
and a letter stands for a field of the date or the time (`%Y` the year, `%m` the month,
`%H` the hour, ...), or for a fixed layout of several (`%F`, `%T`, `%c`, ...); every other
character stands for itself. The names of days and months are the English ones. Between
`%` and the letter, `-` leaves a number unpadded, `_` pads it with blanks and `0` with
zeros, and `^` writes a name in capitals.

The week of the year comes in three countings: from the first Sunday (`%U`), from the
first Monday (`%W`), and the ISO weeks (`%V`, with their year `%G`), which start on
Monday, the first of them holding the year's first Thursday.
-/

namespace HelpMan.Clock

/-- The days from 1970-01-01 to a civil date. -/
def daysOfCivil (y : Int) (m d : Nat) : Int :=
  let y := if m ≤ 2 then y - 1 else y
  let era := y / 400
  let yoe := y - era * 400
  let mp : Int := if m > 2 then (m : Int) - 3 else (m : Int) + 9
  let doy := (153 * mp + 2) / 5 + (d : Int) - 1
  let doe := yoe * 365 + yoe / 4 - yoe / 100 + doy
  era * 146097 + doe - 719468

/-- Whether a year has 366 days. -/
def isLeap (y : Int) : Bool := y % 4 == 0 && (y % 100 != 0 || y % 400 == 0)

/-- The English names of the days of the week, from Sunday. -/
def weekdayNames : List String := ["Sunday", "Monday", "Tuesday", "Wednesday", "Thursday", "Friday", "Saturday"]

/-- The English names of the months. -/
def monthNames : List String :=
  ["January", "February", "March", "April", "May", "June", "July", "August", "September", "October",
   "November", "December"]

/-- The days from the start of the ISO week-based year to a day, given its day of the year
(from zero) and of the week (from Sunday); negative before that year starts. -/
def isoWeekDays (yday wday : Int) : Int :=
  yday - (yday - wday + 4 + 378) % 7 + 3

/-- The ISO week-based year of a day and the days since it started. -/
def isoYearAndDays (year yday wday : Int) : Int × Int :=
  let days := isoWeekDays yday wday
  if days < 0 then (year - 1, isoWeekDays (yday + (if isLeap (year - 1) then 366 else 365)) wday)
  else
    let next := isoWeekDays (yday - (if isLeap year then 366 else 365)) wday
    if next ≥ 0 then (year + 1, next) else (year, days)

/-- A field of a moment, as a directive writes it. -/
inductive Field where
  /-- A number, padded to a width with zeros or, when `blank`, with blanks. -/
  | number (n : Int) (width : Nat) (blank : Bool)
  /-- A name or other text. -/
  | text (s : String)

/-- A number padded to a width by a character, its sign first. -/
def padNumber (n : Int) (width : Nat) (fill : Char) : String :=
  let digits := toString n.natAbs
  let sign := if n < 0 then "-" else ""
  let body := sign ++ digits
  if fill == '0' then sign ++ String.ofList (List.replicate (width - body.length) '0') ++ digits
  else String.ofList (List.replicate (width - body.length) fill) ++ body

/-- The parts of a moment: its civil date and time, its day of the week (from Sunday) and
of the year (from zero), and the seconds. -/
structure Moment where
  civil : Civil
  weekday : Nat
  yearDay : Nat
  seconds : Int

/-- The parts of a moment given in seconds since the epoch. -/
def Moment.ofSeconds (t : Int) : Moment :=
  let c := Civil.ofSeconds t
  let days := t / 86400
  ⟨c, ((days + 4) % 7).toNat, (days - daysOfCivil c.year 1 1).toNat, t⟩

mutual

/-- The field a directive letter stands for; `none` for a letter that is no directive. A
letter for a layout of several fields gives the layout written out. -/
def Moment.field (m : Moment) : Nat → Char → Option Field
  | 0, _ => none
  | fuel + 1, c =>
    let v := m.civil
    let hour12 := if v.hour % 12 == 0 then 12 else v.hour % 12
    let (isoYear, isoDays) := isoYearAndDays v.year m.yearDay m.weekday
    match c with
    | 'a' => some (.text (String.ofList ((weekdayNames[m.weekday]?.getD "").toList.take 3)))
    | 'A' => some (.text (weekdayNames[m.weekday]?.getD ""))
    | 'b' | 'h' => some (.text (monthAbbrev v.month))
    | 'B' => some (.text (monthNames[v.month - 1]?.getD ""))
    | 'c' => some (.text (m.render fuel "%a %b %e %H:%M:%S %Y"))
    | 'C' => some (.number (v.year / 100) 2 false)
    | 'd' => some (.number v.day 2 false)
    | 'D' => some (.text (m.render fuel "%m/%d/%y"))
    | 'e' => some (.number v.day 2 true)
    | 'F' => some (.text (m.render fuel "%Y-%m-%d"))
    | 'g' => some (.number (isoYear % 100) 2 false)
    | 'G' => some (.number isoYear 1 false)
    | 'H' => some (.number v.hour 2 false)
    | 'I' => some (.number hour12 2 false)
    | 'j' => some (.number (m.yearDay + 1) 3 false)
    | 'k' => some (.number v.hour 2 true)
    | 'l' => some (.number hour12 2 true)
    | 'm' => some (.number v.month 2 false)
    | 'M' => some (.number v.minute 2 false)
    | 'n' => some (.text "\n")
    | 'p' => some (.text (if v.hour < 12 then "AM" else "PM"))
    | 'P' => some (.text (if v.hour < 12 then "am" else "pm"))
    | 'r' => some (.text (m.render fuel "%I:%M:%S %p"))
    | 'R' => some (.text (m.render fuel "%H:%M"))
    | 's' => some (.number m.seconds 1 false)
    | 'S' => some (.number v.second 2 false)
    | 't' => some (.text "\t")
    | 'T' => some (.text (m.render fuel "%H:%M:%S"))
    | 'u' => some (.number (if m.weekday == 0 then 7 else m.weekday) 1 false)
    | 'U' => some (.number ((m.yearDay + 7 - m.weekday) / 7) 2 false)
    | 'V' => some (.number (isoDays / 7 + 1) 2 false)
    | 'w' => some (.number m.weekday 1 false)
    | 'W' => some (.number ((m.yearDay + 7 - (m.weekday + 6) % 7) / 7) 2 false)
    | 'x' => some (.text (m.render fuel "%m/%d/%y"))
    | 'X' => some (.text (m.render fuel "%H:%M:%S"))
    | 'y' => some (.number (v.year % 100) 2 false)
    | 'Y' => some (.number v.year 1 false)
    | 'z' => some (.text "+0000")
    | 'Z' => some (.text "UTC")
    | '%' => some (.text "%")
    | _ => none

/-- Writes a moment by a format. -/
def Moment.render (m : Moment) : Nat → String → String
  | 0, _ => ""
  | fuel + 1, format => m.renderChars fuel format.toList

/-- Writes a moment by the characters of a format. -/
def Moment.renderChars (m : Moment) : Nat → List Char → String
  | 0, _ => ""
  | _ + 1, [] => ""
  | fuel + 1, '%' :: rest =>
    let flags := rest.takeWhile fun c => c == '-' || c == '_' || c == '0' || c == '^' || c == '#'
    let after := rest.drop flags.length
    match after with
    | c :: more =>
      match m.field fuel c with
      | some (.number n width blank) =>
        let text :=
          if flags.contains '-' then padNumber n 0 ' '
          else if flags.contains '_' then padNumber n width ' '
          else if flags.contains '0' then padNumber n width '0'
          else padNumber n width (if blank then ' ' else '0')
        text ++ m.renderChars fuel more
      | some (.text s) => (if flags.contains '^' then s.toUpper else s) ++ m.renderChars fuel more
      | none => String.ofList ('%' :: flags ++ [c]) ++ m.renderChars fuel more
    | [] => String.ofList ('%' :: flags)
  | fuel + 1, c :: rest => c.toString ++ m.renderChars fuel rest

end

/-- A moment, given in seconds since the epoch, written by a format. -/
def formatMoment (format : String) (t : Int) : String :=
  (Moment.ofSeconds t).render (2 * format.length + 64) format

example : formatMoment "%Y-%m-%d %H:%M:%S %a %j %V" 0 = "1970-01-01 00:00:00 Thu 001 01" := by decide +kernel
example : formatMoment "%A %B %e %-d %U %W %G" 1704067200 = "Monday January  1 1 00 01 2024" := by decide +kernel

end HelpMan.Clock
