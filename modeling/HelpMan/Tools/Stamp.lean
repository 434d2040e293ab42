import HelpMan.Tools.Date

/-!
# The times `touch` is given

`touch -t` takes a stamp `[[CC]YY]MMDDhhmm[.ss]` (`stampMoment`): eight, ten or twelve
digits, then optionally a dot and two digits, naming a moment that exists: a month of the
year, a day of that month, an hour before 24, a minute before 60 and a second up to 60,
the leap second, which is the first second of the next minute. Two digits of year below
69 are in the 2000s, the others in the 1900s; without a year the stamp is in the present
year. The dates in words of `touch -d` are read by `Date.parse`.
-/

namespace HelpMan.Tools

/-- The number two decimal digits stand for. -/
def pairValue (a b : Char) : Nat := (a.toNat - 48) * 10 + (b.toNat - 48)

/-- The pairs of digits of a list of digits, in order. -/
def digitPairs : List Char → List Nat
  | a :: b :: rest => pairValue a b :: digitPairs rest
  | _ => []

/-- The moment a stamp `[[CC]YY]MMDDhhmm[.ss]` names, in nanoseconds since 1970, if it
names one; `now` gives the year when the stamp has none. -/
def stampMoment (now : Int) (s : String) : Option Int :=
  let cs := s.toList
  let body := cs.takeWhile (· != '.')
  let secondsOk : Option Nat := match cs.drop body.length with
    | [] => some 0
    | ['.', a, b] => if a.isDigit && b.isDigit then some (pairValue a b) else none
    | _ => none
  match secondsOk with
  | none => none
  | some sec =>
    if !(body.all Char.isDigit && [8, 10, 12].contains body.length) then none
    else
      let ps := digitPairs body
      let (year, rest) : Int × List Nat := match ps.length, ps with
        | 6, c :: y :: r => (100 * c + y, r)
        | 5, y :: r => (if y < 69 then 2000 + y else 1900 + y, r)
        | _, r => ((Clock.civilOfDays (now / Date.billion / 86400)).1, r)
      match rest with
      | [mo, d, h, mi] =>
        if 1 ≤ d && d ≤ Date.daysInMonth (Date.leapYear year) mo && h < 24 && mi < 60 && sec ≤ 60 then
          some (Date.secondsOf year ((mo : Int) - 1) d h mi sec * Date.billion)
        else none
      | _ => none

/-- Whether a stamp `[[CC]YY]MMDDhhmm[.ss]` names a moment that exists. -/
def stampValid (s : String) : Bool := (stampMoment 0 s).isSome

example : stampValid "202001010000" ∧ stampValid "2002291200.60" ∧ !stampValid "0229120025" ∧
    !stampValid "2001011200.5" ∧ !stampValid "bad" := by decide +kernel

end HelpMan.Tools
