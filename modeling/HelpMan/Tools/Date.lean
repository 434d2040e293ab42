import HelpMan.Clock.Civil

/-!
# Dates in words

`touch -d` takes a date written in words and numbers, such as `2000-01-01 12:00`,
`next friday`, `3 days ago` or `@946684800`. This module reads one into a moment, or
finds that it names none.

* `tokens` cuts the text into tokens: blanks apart; a sign, blanks and digits make a
  signed number, digits alone an unsigned one, and a dot or a comma followed by a digit
  makes it a decimal; a run of letters and dots is a word, looked up in the tables of
  names (`lookupWord`); text in parentheses is passed over; a sign that no digit follows
  is dropped; any other character is a mark by itself.
* `item` reads one item of the date: a time, a calendar date, a day of the week, a time
  zone, a relative shift, or a bare number, whose meaning depends on what came before it
  (`Reading.bareNumber`). Where one item may be read as a longer or a shorter one, the
  longer is taken, and a word that fits no item fails the whole date.
* `Reading.moment` turns what was read into a moment: no item may be given twice, the
  fields of the calendar date and the time must be in range, and then the day of the week,
  the shifts of years, months and days, the zone and the shifts of hours, minutes and
  seconds are applied in that order.

The clock is universal time; a moment is a number of nanoseconds since 1970-01-01
00:00:00.
-/

namespace HelpMan.Tools.Date

/-! ## The calendar -/

/-- Nanoseconds in a second. -/
def billion : Int := 1000000000

/-- Whether a year of the proleptic Gregorian calendar has a 29th of February. -/
def leapYear (y : Int) : Bool := y % 4 == 0 && (y % 100 != 0 || y % 400 == 0)

/-- The number of days of a month (1 to 12) of a year; 0 for a month that is not one. -/
def daysInMonth (leap : Bool) (m : Int) : Int :=
  match m with
  | 1 | 3 | 5 | 7 | 8 | 10 | 12 => 31
  | 4 | 6 | 9 | 11 => 30
  | 2 => if leap then 29 else 28
  | _ => 0

/-- The number of days from 1970-01-01 to a day of a month (1 to 12) of a year: the
years are counted in cycles of 400, each of 146097 days, from a year taken to start on
the first of March, so that a leap day ends it. -/
def daysFromCivil (y m d : Int) : Int :=
  let y := if m ≤ 2 then y - 1 else y
  let era := y / 400
  let yoe := y - era * 400
  let mp := (m + 9) % 12
  let doy := (153 * mp + 2) / 5 + d - 1
  let doe := yoe * 365 + yoe / 4 - yoe / 100 + doy
  era * 146097 + doe - 719468

/-- The seconds since 1970 of a time of a day, with fields that may be out of range: a
month past December goes on into the next year and a day past the end of its month into
the next month, as the C library's `mktime` takes them. The month counts from `0`. -/
def secondsOf (year month0 day hour minute second : Int) : Int :=
  let y := year + month0 / 12
  let m := month0 % 12
  (daysFromCivil y (m + 1) 1 + day - 1) * 86400 + hour * 3600 + minute * 60 + second

/-- The day of the week of a moment in seconds, `0` for Sunday. -/
def weekdayOf (seconds : Int) : Int := (seconds / 86400 + 4) % 7

example : daysFromCivil 1970 1 1 = 0 ∧ daysFromCivil 2000 3 1 = 11017 ∧ Clock.civilOfDays 11017 = (2000, 3, 1) ∧
    secondsOf 1999 12 1 0 0 0 = 946684800 ∧ weekdayOf 0 = 4 := by decide

/-! ## Tokens -/

/-- The units of a shift in time. -/
inductive TimeUnit where
  | year
  | month
  | day
  | hour
  | minute
  | second
  deriving DecidableEq, Repr

/-- `AM` or `PM` after an hour, or neither. -/
inductive Meridian where
  | am
  | pm
  | h24
  deriving DecidableEq, Repr

/-- A token of a date in words. -/
inductive Token where
  /-- Digits: the value and how many digits there are. -/
  | unsigned (value digits : Nat)
  /-- A sign and digits: whether the sign is a minus, the digits' value and their count. -/
  | signed (negative : Bool) (magnitude digits : Nat)
  /-- A number with a fraction, in nanoseconds, and whether a sign came before it. -/
  | decimal (signed : Bool) (nanos : Int)
  | meridian (m : Meridian)
  /-- A month, from 1. -/
  | month (n : Nat)
  /-- A day of the week, from 0 for Sunday. -/
  | weekday (n : Nat)
  /-- A time zone, by its offset east in seconds. -/
  | zone (offset : Int)
  /-- A zone of summer time, by the offset of its winter time. -/
  | dayZone (offset : Int)
  /-- `DST`. -/
  | dst
  /-- A unit of time, and how many of it the word means (a week is seven days). -/
  | unit (u : TimeUnit) (count : Nat)
  /-- `TOMORROW`, `YESTERDAY`, `TODAY` and `NOW`: a shift of days. -/
  | dayShift (days : Int)
  /-- `LAST`, `THIS`, `NEXT`, `FIRST` and `THIRD` to `TWELFTH`. -/
  | ordinal (n : Int)
  /-- `AGO` (`-1`) and `HENCE` (`1`). -/
  | ago (sign : Int)
  /-- The letter `T`, which joins a date to its time. -/
  | letterT
  | mark (c : Char)
  /-- A word that no table holds, or a number too large to hold. -/
  | unknown
  deriving DecidableEq, Repr

/-- The signed value of a signed number. -/
def signedValue (negative : Bool) (magnitude : Nat) : Int := if negative then -(magnitude : Int) else magnitude

/-- `AM` and `PM`, with dots or not. -/
def meridianTable : List (String × Token) :=
  [("AM", .meridian .am), ("A.M.", .meridian .am), ("PM", .meridian .pm), ("P.M.", .meridian .pm)]

/-- The months and the days of the week, with the other spellings taken whole. -/
def monthAndDayTable : List (String × Token) :=
  [("JANUARY", .month 1), ("FEBRUARY", .month 2), ("MARCH", .month 3), ("APRIL", .month 4), ("MAY", .month 5),
   ("JUNE", .month 6), ("JULY", .month 7), ("AUGUST", .month 8), ("SEPTEMBER", .month 9), ("SEPT", .month 9),
   ("OCTOBER", .month 10), ("NOVEMBER", .month 11), ("DECEMBER", .month 12), ("SUNDAY", .weekday 0),
   ("MONDAY", .weekday 1), ("TUESDAY", .weekday 2), ("TUES", .weekday 2), ("WEDNESDAY", .weekday 3),
   ("WEDNES", .weekday 3), ("THURSDAY", .weekday 4), ("THUR", .weekday 4), ("THURS", .weekday 4),
   ("FRIDAY", .weekday 5), ("SATURDAY", .weekday 6)]

/-- An offset of whole hours, in seconds. -/
def hours (n : Int) : Int := n * 3600

/-- The names of universal time and of the time zones, each with its offset. -/
def zoneTable : List (String × Token) :=
  [("GMT", .zone 0), ("UT", .zone 0), ("UTC", .zone 0),
   ("WET", .zone 0), ("WEST", .dayZone 0), ("BST", .dayZone 0), ("ART", .zone (hours (-3))),
   ("BRT", .zone (hours (-3))), ("BRST", .dayZone (hours (-3))), ("NST", .zone (-(hours 3 + 1800))),
   ("NDT", .dayZone (-(hours 3 + 1800))), ("AST", .zone (hours (-4))), ("ADT", .dayZone (hours (-4))),
   ("CLT", .zone (hours (-4))), ("CLST", .dayZone (hours (-4))), ("EST", .zone (hours (-5))),
   ("EDT", .dayZone (hours (-5))), ("CST", .zone (hours (-6))), ("CDT", .dayZone (hours (-6))),
   ("MST", .zone (hours (-7))), ("MDT", .dayZone (hours (-7))), ("PST", .zone (hours (-8))),
   ("PDT", .dayZone (hours (-8))), ("AKST", .zone (hours (-9))), ("AKDT", .dayZone (hours (-9))),
   ("HST", .zone (hours (-10))), ("HAST", .zone (hours (-10))), ("HADT", .dayZone (hours (-10))),
   ("SST", .zone (hours (-12))), ("WAT", .zone (hours 1)), ("CET", .zone (hours 1)), ("CEST", .dayZone (hours 1)),
   ("MET", .zone (hours 1)), ("MEZ", .zone (hours 1)), ("MEST", .dayZone (hours 1)), ("MESZ", .dayZone (hours 1)),
   ("EET", .zone (hours 2)), ("EEST", .dayZone (hours 2)), ("CAT", .zone (hours 2)), ("SAST", .zone (hours 2)),
   ("EAT", .zone (hours 3)), ("MSK", .zone (hours 3)), ("MSD", .dayZone (hours 3)), ("IST", .zone (hours 5 + 1800)),
   ("SGT", .zone (hours 8)), ("KST", .zone (hours 9)), ("JST", .zone (hours 9)), ("GST", .zone (hours 10)),
   ("NZST", .zone (hours 12)), ("NZDT", .dayZone (hours 12))]

/-- The units of time. -/
def unitTable : List (String × Token) :=
  [("YEAR", .unit .year 1), ("MONTH", .unit .month 1), ("FORTNIGHT", .unit .day 14), ("WEEK", .unit .day 7),
   ("DAY", .unit .day 1), ("HOUR", .unit .hour 1), ("MINUTE", .unit .minute 1), ("MIN", .unit .minute 1),
   ("SECOND", .unit .second 1), ("SEC", .unit .second 1)]

/-- The words of relative time. -/
def relativeTable : List (String × Token) :=
  [("TOMORROW", .dayShift 1), ("YESTERDAY", .dayShift (-1)), ("TODAY", .dayShift 0), ("NOW", .dayShift 0),
   ("LAST", .ordinal (-1)), ("THIS", .ordinal 0), ("NEXT", .ordinal 1), ("FIRST", .ordinal 1),
   ("THIRD", .ordinal 3), ("FOURTH", .ordinal 4), ("FIFTH", .ordinal 5), ("SIXTH", .ordinal 6),
   ("SEVENTH", .ordinal 7), ("EIGHTH", .ordinal 8), ("NINTH", .ordinal 9), ("TENTH", .ordinal 10),
   ("ELEVENTH", .ordinal 11), ("TWELFTH", .ordinal 12), ("AGO", .ago (-1)), ("HENCE", .ago 1)]

/-- The single letters that name military time zones; `T` joins a date to its time and
`J` is none. -/
def militaryZone (c : Char) : Option Token :=
  if c = 'T' then some .letterT
  else if c = 'Z' then some (.zone 0)
  else if 'A' ≤ c && c ≤ 'I' then some (.zone (hours (c.toNat - 'A'.toNat + 1)))
  else if 'K' ≤ c && c ≤ 'M' then some (.zone (hours (c.toNat - 'K'.toNat + 10)))
  else if 'N' ≤ c && c ≤ 'Y' then some (.zone (hours (-((c.toNat - 'N'.toNat + 1 : Nat) : Int))))
  else none

/-- A word, in capitals, as the tables read it: `AM` or `PM`; a month or day, whole or by
its first three letters (a dot after them allowed); a time zone; `DST`; a unit of time,
also in the plural; a word of relative time; a single letter; or a time zone written with
dots. -/
def lookupWord (w : String) : Token :=
  let cs := w.toList
  let short := cs.length == 3 || (cs.length == 4 && cs.getLast? == some '.')
  let find (table : List (String × Token)) (x : String) : Option Token := List.lookup x table
  let monthOrDay := monthAndDayTable.find? fun (name, _) =>
    if short then name.toList.take 3 == cs.take 3 else name == w
  let singular := if cs.getLast? == some 'S' then find unitTable (String.ofList cs.dropLast) else none
  let military := match cs with
    | [c] => militaryZone c
    | _ => none
  let undotted := if cs.contains '.' then find zoneTable (String.ofList (cs.filter (· != '.'))) else none
  (find meridianTable w <|> monthOrDay.map Prod.snd <|> find zoneTable w <|>
    (if w == "DST" then some Token.dst else none) <|> find unitTable w <|> singular <|> find relativeTable w <|>
    military <|> undotted).getD .unknown

/-- Whether a character is a blank to the date reader. -/
def blank (c : Char) : Bool := c == ' ' || (c.toNat ≥ 9 && c.toNat ≤ 13)

/-- The value of a list of decimal digits. -/
def digitsValue (ds : List Char) : Nat := ds.foldl (fun n c => n * 10 + (c.toNat - 48)) 0

/-- Passes over text in parentheses, nested, after its opening one; the text after it,
empty when it is not closed. -/
def skipComment : Nat → Nat → List Char → List Char
  | 0, _, _ => []
  | _ + 1, _, [] => []
  | fuel + 1, depth, c :: cs =>
    if c == '(' then skipComment fuel (depth + 1) cs
    else if c == ')' then (if depth == 0 then cs else skipComment fuel (depth - 1) cs)
    else skipComment fuel depth cs

/-- The largest value a number of the date may have. -/
def largest : Nat := 9223372036854775807

/-- A number's token and the text after it: its digits, and a fraction when a dot or a
comma and a digit follow them. The fraction keeps nine digits; a negative number's
further digits round it away from zero when any of them is not `0`. -/
def numberToken (sign : Option Bool) (cs : List Char) : Token × List Char :=
  let ds := cs.takeWhile Char.isDigit
  let rest := cs.drop ds.length
  let value := digitsValue ds
  let negative := sign == some true
  let whole : Token := match sign with
    | some neg => .signed neg value ds.length
    | none => .unsigned value ds.length
  if value > largest then (.unknown, rest)
  else
    match rest with
    | c :: d :: more =>
      if (c == '.' || c == ',') && d.isDigit then
        let frac := (d :: more).takeWhile Char.isDigit
        let after := (d :: more).drop frac.length
        let nine := frac.take 9
        let ns := digitsValue (nine ++ List.replicate (9 - nine.length) (Char.ofNat 48))
        let ns := if negative && (frac.drop 9).any (· != '0') then ns + 1 else ns
        let total : Int := (value : Int) * billion + ns
        (.decimal sign.isSome (if negative then -total else total), after)
      else (whole, rest)
    | _ => (whole, rest)

/-- The tokens of a date in words. -/
def tokens : Nat → List Char → List Token
  | 0, _ => []
  | _ + 1, [] => []
  | fuel + 1, c :: cs =>
    if blank c then tokens fuel cs
    else if c == '-' || c == '+' then
      let after := cs.dropWhile blank
      match after with
      | d :: _ =>
        if d.isDigit then
          let (t, rest) := numberToken (some (c == '-')) after
          t :: tokens fuel rest
        else tokens fuel after
      | [] => []
    else if c.isDigit then
      let (t, rest) := numberToken none (c :: cs)
      t :: tokens fuel rest
    else if c.isAlpha then
      let w := (c :: cs).takeWhile (fun x => x.isAlpha || x == '.')
      lookupWord (String.ofList ((w.take 19).map Char.toUpper)) :: tokens fuel ((c :: cs).drop w.length)
    else if c == '(' then tokens fuel (skipComment (cs.length + 1) 0 cs)
    else .mark c :: tokens fuel cs

/-! ## Items -/

/-- A shift in time, by unit. -/
structure Shift where
  year : Int := 0
  month : Int := 0
  day : Int := 0
  hour : Int := 0
  minute : Int := 0
  second : Int := 0
  nanos : Int := 0
  deriving DecidableEq, Repr

/-- A shift of a number of a unit. -/
def Shift.of (u : TimeUnit) (n : Int) : Shift :=
  match u with
  | .year => { year := n }
  | .month => { month := n }
  | .day => { day := n }
  | .hour => { hour := n }
  | .minute => { minute := n }
  | .second => { second := n }

/-- What the items read so far say: how many of each kind of item came, and the fields
they set. Before any item the fields are those of the present moment. -/
structure Reading where
  times : Nat := 0
  dates : Nat := 0
  days : Nat := 0
  zones : Nat := 0
  shifted : Bool := false
  year : Int
  /-- The number of digits the year was written with; `0` when no item gave it. -/
  yearDigits : Nat := 0
  month : Int
  day : Int
  hour : Int
  minute : Int
  second : Int
  nanos : Int
  meridian : Meridian := .h24
  zone : Int := 0
  dayOrdinal : Int := 0
  dayNumber : Int := 0
  shift : Shift := {}
  deriving Repr

/-- The reading with a time of day set. -/
def Reading.setTime (r : Reading) (h m s ns : Int) (mer : Meridian) : Reading :=
  { r with hour := h, minute := m, second := s, nanos := ns, meridian := mer }

/-- The reading with a shift added, times a factor (`-1` after `AGO`). -/
def Reading.addShift (r : Reading) (s : Shift) (factor : Int) : Reading :=
  let t := r.shift
  { r with shifted := true,
           shift := ⟨t.year + factor * s.year, t.month + factor * s.month, t.day + factor * s.day,
             t.hour + factor * s.hour, t.minute + factor * s.minute, t.second + factor * s.second,
             t.nanos + factor * s.nanos⟩ }

/-- A number alone: the year, after a date that gave none and before any shift, when a
time came too or it has more than two digits; a date `YYYYMMDD` when it has more than
four digits; a time `hh` or `hhmm` otherwise. -/
def Reading.bareNumber (r : Reading) (value digits : Nat) : Reading :=
  if r.dates > 0 && r.yearDigits == 0 && !r.shifted && (r.times > 0 || 2 < digits) then
    { r with year := value, yearDigits := digits }
  else if 4 < digits then
    { r with dates := r.dates + 1, day := (value % 100 : Nat), month := (value / 100 % 100 : Nat),
             year := (value / 10000 : Nat), yearDigits := digits - 4 }
  else
    let (h, m) := if digits ≤ 2 then (value, 0) else (value / 100, value % 100)
    { (r.setTime h m 0 0 .h24) with times := r.times + 1 }

/-- The offset of a zone `±hh`, `±hhmm` or `±hh:mm`, in seconds, if it is at most a day:
one or two digits without minutes are hours. -/
def zoneOffset (negative : Bool) (magnitude digits : Nat) (minutes : Option Nat) : Option Int :=
  let value := signedValue negative magnitude
  let n : Int := match minutes with
    | none =>
      let v := if digits ≤ 2 then value * 100 else value
      v.tdiv 100 * 60 + v.tmod 100
    | some mm => if negative then value * 60 - mm else value * 60 + mm
  if -1440 ≤ n && n ≤ 1440 then some (n * 60) else none

/-- A shift written as a signed number and a unit, and the tokens after it. -/
def signedShift? : List Token → Option (Shift × List Token)
  | .signed neg n _ :: .unit u k :: rest => some (Shift.of u (signedValue neg n * k), rest)
  | _ => none

/-- A shift of relative time and the tokens after it: a unit after an ordinal word or a
number or alone, seconds with a fraction, or a signed number and a unit. -/
def shiftOf? : List Token → Option (Shift × List Token)
  | .ordinal n :: .unit u k :: rest => some (Shift.of u (n * k), rest)
  | .unsigned n _ :: .unit u k :: rest => some (Shift.of u (n * k), rest)
  | .unit u k :: rest => some (Shift.of u k, rest)
  | .decimal _ ns :: .unit .second _ :: rest => some ({ second := ns / billion, nanos := ns % billion }, rest)
  | ts => signedShift? ts

/-- Seconds as a time of day writes them: a number, or a number with a fraction. -/
def secondsOf? : Token → Option (Int × Int)
  | .unsigned n _ => some (n, 0)
  | .decimal false ns => some (ns / billion, ns % billion)
  | _ => none

/-- An offset `±hh[:mm]` after a time, if one comes, and the tokens after it; `none` when
it is out of range or its minutes are missing. -/
def zoneAfter (ts : List Token) : Option (Option Int × List Token) :=
  match ts with
  | .signed neg n d :: .mark ':' :: .unsigned mm _ :: rest => (zoneOffset neg n d (some mm)).map fun z => (some z, rest)
  | .signed _ _ _ :: .mark ':' :: _ => none
  | .signed neg n d :: rest => (zoneOffset neg n d none).map fun z => (some z, rest)
  | _ => some (none, ts)

/-- The reading after a time of day, with the zone offset that came after it, if any. -/
def Reading.timeWithZone (r : Reading) (h m s ns : Int) : Option Int → Reading
  | some z => { (r.setTime h m s ns .h24) with times := r.times + 1, zones := r.zones + 1, zone := z }
  | none => { (r.setTime h m s ns .h24) with times := r.times + 1 }

/-- Reads a time `hh:mm[:ss]` after its hour, and `AM` or `PM` (when `meridianOk`) or a
zone offset after it: the reading and the tokens after it. -/
def clockTime (r : Reading) (meridianOk : Bool) (h : Nat) (ts : List Token) : Option (Reading × List Token) := do
  let (m, s, ns, rest) ← match ts with
    | .mark ':' :: .unsigned m _ :: .mark ':' :: t :: rest => (secondsOf? t).map fun (s, ns) => ((m : Int), s, ns, rest)
    | .mark ':' :: .unsigned _ _ :: .mark ':' :: [] => none
    | .mark ':' :: .unsigned m _ :: rest => some ((m : Int), 0, 0, rest)
    | _ => none
  match meridianOk, rest with
  | true, .meridian mer :: rest => some ({ (r.setTime h m s ns mer) with times := r.times + 1 }, rest)
  | _, _ => do
    let (offset, rest) ← zoneAfter rest
    some (r.timeWithZone h m s ns offset, rest)

/-- The time after the `T` of a date `YYYY-MM-DDThh[:mm[:ss]]`: an hour alone needs a
zone offset after it. -/
def isoTime (r : Reading) (ts : List Token) : Option (Reading × List Token) :=
  match ts with
  | .unsigned h _ :: .mark ':' :: rest => clockTime r false h (.mark ':' :: rest)
  | .unsigned h _ :: rest@(.signed _ _ _ :: _) => do
    let (offset, rest) ← zoneAfter rest
    some (r.timeWithZone h 0 0 0 offset, rest)
  | _ => none

/-- The reading with a calendar date set: its month, day and, if given, its year and the
number of digits the year was written with. -/
def Reading.setDate (r : Reading) (month day : Int) (year : Option (Int × Nat)) : Reading :=
  let r := { r with dates := r.dates + 1, month := month, day := day }
  match year with
  | some (y, d) => { r with year := y, yearDigits := d }
  | none => r

/-- Reads the items that start with a number. -/
def numberItem (r : Reading) (n d : Nat) (ts : List Token) : Option (Reading × List Token) :=
  match ts with
  | .meridian mer :: rest => some ({ (r.setTime n 0 0 0 mer) with times := r.times + 1 }, rest)
  | .mark ':' :: _ => clockTime r true n ts
  | .signed neg m _ :: .signed neg2 m2 _ :: rest =>
    let r := r.setDate (-signedValue neg m) (-signedValue neg2 m2) (some (n, d))
    match rest with
    | .letterT :: rest => isoTime r rest
    | _ => some (r, rest)
  | .signed neg m _ :: .unit u k :: rest =>
    some ((r.bareNumber n d).addShift (Shift.of u (signedValue neg m * k)) 1, rest)
  | .signed _ _ _ :: _ => do
    let (offset, rest) ← zoneAfter ts
    some (r.timeWithZone n 0 0 0 offset, rest)
  | .mark '/' :: .unsigned b _ :: .mark '/' :: .unsigned c cd :: rest =>
    if 4 ≤ d then some (r.setDate b c (some (n, d)), rest) else some (r.setDate n b (some (c, cd)), rest)
  | .mark '/' :: .unsigned _ _ :: .mark '/' :: _ => none
  | .mark '/' :: .unsigned b _ :: rest => some (r.setDate n b none, rest)
  | .mark '/' :: _ => none
  | .month m :: .signed neg y yd :: rest => some (r.setDate m n (some (-signedValue neg y, yd)), rest)
  | .month m :: .unsigned y yd :: rest => some (r.setDate m n (some (y, yd)), rest)
  | .month m :: rest => some (r.setDate m n none, rest)
  | .weekday w :: rest => some ({ r with days := r.days + 1, dayOrdinal := n, dayNumber := w }, rest)
  | .unit u k :: .ago a :: rest => some (r.addShift (Shift.of u (n * k)) a, rest)
  | .unit u k :: rest => some (r.addShift (Shift.of u (n * k)) 1, rest)
  | rest => some (r.bareNumber n d, rest)

/-- Reads one item of a date: the reading after it and the tokens after it, or `none`
when no item starts here. -/
def item (r : Reading) : List Token → Option (Reading × List Token)
  | [] => none
  | .unsigned n d :: rest => numberItem r n d rest
  | .month m :: ts =>
    match ts with
    | .signed a x _ :: .signed b y yd :: rest => some (r.setDate m (-signedValue a x) (some (-signedValue b y, yd)), rest)
    | .signed _ _ _ :: _ => none
    | .unsigned d _ :: .mark ',' :: .unsigned y yd :: rest => some (r.setDate m d (some (y, yd)), rest)
    | .unsigned _ _ :: .mark ',' :: _ => none
    | .unsigned d _ :: rest => some (r.setDate m d none, rest)
    | _ => none
  | .weekday w :: ts =>
    let rest := match ts with
      | .mark ',' :: rest => rest
      | rest => rest
    some ({ r with days := r.days + 1, dayOrdinal := 0, dayNumber := w }, rest)
  | .ordinal o :: .weekday w :: rest => some ({ r with days := r.days + 1, dayOrdinal := o, dayNumber := w }, rest)
  | .dayShift d :: rest => some (r.addShift { day := d } 1, rest)
  | .zone z :: ts =>
    let r := { r with zones := r.zones + 1 }
    match signedShift? ts with
    | some (s, rest) => some ({ r with zone := z }.addShift s 1, rest)
    | none =>
      match ts with
      | .signed neg n d :: .mark ':' :: .unsigned mm _ :: rest =>
        (zoneOffset neg n d (some mm)).map fun o => ({ r with zone := o + z }, rest)
      | .signed _ _ _ :: .mark ':' :: _ => none
      | .signed neg n d :: rest => (zoneOffset neg n d none).map fun o => ({ r with zone := o + z }, rest)
      | .dst :: rest => some ({ r with zone := z + 3600 }, rest)
      | rest => some ({ r with zone := z }, rest)
  | .dayZone z :: rest => some ({ r with zones := r.zones + 1, zone := z + 3600 }, rest)
  | .letterT :: ts =>
    let r := { r with zones := r.zones + 1, zone := hours (-7) }
    match signedShift? ts, ts with
    | some (s, rest), _ => some (r.addShift s 1, rest)
    | none, .signed _ _ _ :: _ => none
    | none, rest => some (r, rest)
  | ts =>
    match shiftOf? ts with
    | some (s, .ago a :: rest) => some (r.addShift s a, rest)
    | some (s, rest) => some (r.addShift s 1, rest)
    | none => none

/-- Reads the items of a date one after another, to the end. -/
def items : Nat → Reading → List Token → Option Reading
  | _, r, [] => some r
  | 0, _, _ => none
  | fuel + 1, r, ts =>
    match item r ts with
    | some (r, rest) => items fuel r rest
    | none => none

/-! ## The moment -/

/-- The hour of the day an hour and `AM` or `PM` name: 0 to 23 alone, 1 to 12 with `AM`
or `PM`, 12 being the first hour of the half day. -/
def hourOf (h : Int) : Meridian → Option Int
  | .h24 => if 0 ≤ h && h < 24 then some h else none
  | .am => if 0 < h && h < 12 then some h else if h == 12 then some 0 else none
  | .pm => if 0 < h && h < 12 then some (h + 12) else if h == 12 then some 12 else none

/-- The year a year as written stands for: two digits below 69 are in the 2000s, other
two digits in the 1900s, and a negative year is its value without the sign. -/
def fullYear (y : Int) (digits : Nat) : Int :=
  if 0 ≤ y && digits == 2 then y + (if y < 69 then 2000 else 1900) else if y < 0 then -y else y

/-- The moment a reading names, if it names one: no kind of item came twice, the fields
of the date and the time are in range, and the day of the week, the shifts of years,
months and days, the zone and the shifts of hours, minutes and seconds are then applied.
A reading of shifts alone keeps the present time of day; one with a date or a day of the
week and no time is at midnight. -/
def Reading.moment (r : Reading) : Option Int := do
  if 1 < r.times || 1 < r.dates || 1 < r.days || 1 < r.zones then none
  let year := fullYear r.year r.yearDigits
  if year - 1900 > 2147483647 then none
  let keepsTime := r.times > 0 || (r.shifted && r.dates == 0 && r.days == 0)
  let (h, mi, sec, ns) ← if keepsTime then (hourOf r.hour r.meridian).map (·, r.minute, r.second, r.nanos)
    else some (0, 0, 0, 0)
  unless 1 ≤ r.month && r.month ≤ 12 && 1 ≤ r.day && r.day ≤ daysInMonth (leapYear year) r.month &&
      0 ≤ mi && mi < 60 && 0 ≤ sec && sec < 60 do none
  let start := secondsOf year (r.month - 1) r.day h mi sec
  let start := if r.days > 0 && r.dates == 0 then
      let wday := weekdayOf start
      let ordinal := r.dayOrdinal - (if 0 < r.dayOrdinal && wday != r.dayNumber then 1 else 0)
      start + (ordinal * 7 + (r.dayNumber - wday + 7) % 7) * 86400
    else start
  let s := r.shift
  let start := if s.year != 0 || s.month != 0 || s.day != 0 then
      let (y, m, d) := Clock.civilOfDays (start / 86400)
      secondsOf (y + s.year) ((m : Int) - 1 + s.month) ((d : Int) + s.day) h mi sec
    else start
  let start := if r.zones > 0 then start - r.zone else start
  let sumNs := ns + s.nanos
  let seconds := start + s.hour * 3600 + s.minute * 60 + s.second + (sumNs - sumNs % billion) / billion
  return seconds * billion + sumNs % billion

/-- The reading before any item: the fields of the present moment. -/
def startReading (now : Int) : Reading :=
  let seconds := now / billion
  let (y, m, d) := Clock.civilOfDays (seconds / 86400)
  let inDay := seconds % 86400
  { year := y, month := m, day := d, hour := inDay / 3600, minute := inDay % 3600 / 60, second := inDay % 60,
    nanos := now % billion }

/-- The moment a date in words names, the present moment being `now`, or `none` when it
names none. `@` and a number of seconds, alone, is that many seconds after 1970. -/
def parse (now : Int) (text : String) : Option Int :=
  let ts := tokens (text.length + 1) text.toList
  match ts with
  | [.mark '@', .unsigned n _] => some (n * billion)
  | [.mark '@', .signed neg n _] => some (signedValue neg n * billion)
  | [.mark '@', .decimal _ ns] => some ns
  | _ => (items (ts.length + 1) (startReading now) ts).bind Reading.moment

example : parse 0 "2000-01-01" = some 946684800000000000 ∧ parse 0 "@5" = some 5000000000 ∧
    parse 0 "sept" = none ∧ parse 0 "j" = none ∧ parse 0 "13 pm" = none ∧ parse 0 "1/2/3" ≠ none ∧
    parse 0 "2000-01-01T10:00Z" = some 946720800000000000 ∧ parse 0 "999999" = none := by
  decide +kernel

end HelpMan.Tools.Date
