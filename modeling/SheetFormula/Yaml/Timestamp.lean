/-!
# Dates in YAML

A plain scalar that is written like a date stands for a date. Main definitions:

* `Yaml.daysIn` — the days of a month;
* `Yaml.Zone`, `Yaml.zone?` — zones; `Yaml.timeOfDay?` — times of day;
* `Yaml.Timestamp`, `Yaml.timestamp?` — dates.
-/

namespace SheetFormula

namespace Yaml

/-- The number that decimal digits stand for. -/
def decimalValue (cs : List Char) : Nat := cs.foldl (fun n c => 10 * n + (c.toNat - '0'.toNat)) 0

/-- The days of a month. -/
def daysIn (year month : Nat) : Nat :=
  if month = 2 then
    if year % 4 = 0 && (year % 100 ≠ 0 || year % 400 = 0) then 29 else 28
  else if month = 4 || month = 6 || month = 9 || month = 11 then 30
  else 31

/-- One or two digits and what follows them. -/
def shortNumber? (cs : List Char) : Option (Nat × List Char) :=
  match cs with
  | a :: rest =>
    if !a.isDigit then none
    else
      match rest with
      | b :: more => if b.isDigit then some (decimalValue [a, b], more) else some (decimalValue [a], rest)
      | [] => some (decimalValue [a], [])
  | [] => none

/-! ## Zones -/

/-- **Zone of a date**. Zones are told apart by how they are written as well as by where they lie. -/
inductive Zone where
  /-- The zone of dates that name none, and of the letter Z. -/
  | utc
  /-- The same place, by its distance. -/
  | atZero
  /-- Whole hours away. -/
  | hours (n : Int)
  /-- Anywhere else; no two dates have one zone like that. -/
  | apart
  deriving DecidableEq, Repr

/-- The zone that is so many seconds away. -/
def Zone.ofSeconds (n : Int) : Zone :=
  if n = 0 then .atZero
  else if n % 3600 = 0 && -12 ≤ n / 3600 && n / 3600 ≤ 14 then .hours (n / 3600)
  else .apart

/-- **Time zone** at the end of a date, with the seconds it is away: `Z`, or hours and minutes with a sign, up
to and including a whole day and a whole hour. -/
def zone? (cs : List Char) : Option (Int × Zone) :=
  match cs with
  | ['Z'] => some (0, .utc)
  | [s, a, b, ':', c, d] =>
    let away : Int := 3600 * decimalValue [a, b] + 60 * decimalValue [c, d]
    if (s = '+' || s = '-') && [a, b, c, d].all Char.isDigit &&
        decimalValue [a, b] ≤ 24 && decimalValue [c, d] ≤ 60 then
      let away := if s = '-' then -away else away
      some (away, .ofSeconds away)
    else none
  | _ => none

/-! ## Times -/

/-- **Fraction of a second** in billionths, if there is one, and what follows it: a point or comma with
digits, of which nine count. -/
def fraction (cs : List Char) : Nat × List Char :=
  match cs with
  | p :: d :: more =>
    if (p = '.' || p = ',') && d.isDigit then
      let digits := d :: more.takeWhile Char.isDigit
      (decimalValue ((digits ++ List.replicate 9 '0').take 9), more.dropWhile Char.isDigit)
    else (0, cs)
  | _ => (0, cs)

/-- **Time of day** in seconds and billionths, and what follows it: hours, minutes, seconds, and perhaps a
fraction. -/
def timeOfDay? (cs : List Char) : Option (Nat × Nat × List Char) :=
  match shortNumber? cs with
  | some (h, ':' :: cs) =>
    match shortNumber? cs with
    | some (m, ':' :: cs) =>
      match shortNumber? cs with
      | some (s, cs) =>
        if h < 24 && m < 60 && s < 60 then some (3600 * h + 60 * m + s, fraction cs) else none
      | none => none
    | _ => none
  | _ => none

/-! ## Dates -/

/-- **A date**: an instant, and the zone in which it is given. -/
structure Timestamp where
  /-- Seconds since the beginning of the year zero. -/
  seconds : Int
  /-- Billionths of a second. -/
  billionths : Nat := 0
  /-- The zone. -/
  zone : Zone := .utc
  deriving DecidableEq, Repr

/-- Days from the beginning of the year zero to a day. -/
def dayNumber (year month day : Nat) : Nat :=
  365 * year + (year + 3) / 4 - (year + 99) / 100 + (year + 399) / 400 +
    (List.range (month - 1)).foldl (fun days m => days + daysIn year (m + 1)) (day - 1)

/-- **Date behind its day**: nothing, a time with its zone behind the letter T, or one without behind
spaces. -/
def onDay? (days : Nat) (cs : List Char) : Option Timestamp :=
  let start : Int := 86400 * days
  match cs with
  | [] => some { seconds := start }
  | 'T' :: time | 't' :: time => do
    let (seconds, billionths, rest) ← timeOfDay? time
    let (away, zone) ← zone? rest
    return { seconds := start + seconds - away, billionths, zone }
  | ' ' :: time => do
    let (seconds, billionths, rest) ← timeOfDay? (time.dropWhile (· = ' '))
    if rest.isEmpty then some { seconds := start + seconds, billionths } else none
  | _ => none

/-- **Date**: four digits of a year, month and day, and perhaps a time. -/
def timestamp? (cs : List Char) : Option Timestamp :=
  let year := cs.takeWhile Char.isDigit
  if year.length ≠ 4 then none
  else
    match cs.dropWhile Char.isDigit with
    | '-' :: cs =>
      match shortNumber? cs with
      | some (month, '-' :: cs) =>
        match shortNumber? cs with
        | some (day, rest) =>
          let year := decimalValue year
          if 1 ≤ month && month ≤ 12 && 1 ≤ day && day ≤ daysIn year month then
            onDay? (dayNumber year month day) rest
          else none
        | none => none
      | _ => none
    | _ => none

end Yaml

end SheetFormula
