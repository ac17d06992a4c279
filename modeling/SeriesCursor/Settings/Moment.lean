/-!
Dates and times of a settings document: a date, a time of day, or both with or without an offset from
universal time. The parts are checked one by one only, so that every month has thirty-one days. The text of
one is unique: the mark between date and time is a capital, and the fraction of a second has at most nine
digits and does not end in a zero.
-/

namespace SeriesCursor

namespace Toml

structure Date where
  year : Nat
  month : Nat
  day : Nat
  deriving DecidableEq, Repr

structure Time where
  hour : Nat
  minute : Nat
  second : Nat
  fraction : List Char
  deriving DecidableEq, Repr

inductive Offset where
  | universal
  /-- Hours with their sign; the minutes have none of their own. -/
  | hours (hours : Int) (minutes : Nat)
  deriving DecidableEq, Repr

inductive Moment where
  | date (date : Date)
  | time (time : Time)
  | both (date : Date) (time : Time) (offset : Option Offset)
  deriving DecidableEq, Repr

namespace Moment

def number? : (count : Nat) → (text : List Char) → (value : Nat) → Option (Nat × List Char)
  | 0, text, value => some (value, text)
  | count + 1, c :: rest, value =>
    if c.isDigit then number? count rest (value * 10 + (c.toNat - 48)) else none
  | _ + 1, [], _ => none

def after? (mark : Char) : List Char → Option (List Char)
  | c :: rest => if c = mark then some rest else none
  | [] => none

def date? (text : List Char) : Option (Date × List Char) := do
  let (year, text) ← number? 4 text 0
  let (month, text) ← number? 2 (← after? '-' text) 0
  let (day, text) ← number? 2 (← after? '-' text) 0
  if 1 ≤ month ∧ month ≤ 12 ∧ 1 ≤ day ∧ day ≤ 31 then some (⟨year, month, day⟩, text) else none

/-- The digits that count of a fraction of a second: nine at most, and no zeros at the end. -/
def significant (digits : List Char) : List Char :=
  ((digits.take 9).reverse.dropWhile (· == '0')).reverse

def fraction? : List Char → Option (List Char × List Char)
  | '.' :: rest =>
    let digits := rest.takeWhile Char.isDigit
    if digits.isEmpty then none else some (significant digits, rest.dropWhile Char.isDigit)
  | text => some ([], text)

def time? (text : List Char) : Option (Time × List Char) := do
  let (hour, text) ← number? 2 text 0
  let (minute, text) ← number? 2 (← after? ':' text) 0
  let (second, text) ← number? 2 (← after? ':' text) 0
  let (fraction, text) ← fraction? text
  if hour ≤ 24 ∧ minute ≤ 59 ∧ second ≤ 59 then some (⟨hour, minute, second, fraction⟩, text) else none

def hours? (sign : Int) (text : List Char) : Option Offset := do
  let (hours, text) ← number? 2 text 0
  let (minutes, text) ← number? 2 (← after? ':' text) 0
  if text.isEmpty then some (.hours (sign * hours) minutes) else none

def offset? : List Char → Option (Option Offset)
  | [] => some none
  | ['Z'] | ['z'] => some (some .universal)
  | '+' :: rest => (hours? 1 rest).map some
  | '-' :: rest => (hours? (-1) rest).map some
  | _ => none

def ofText? (text : List Char) : Option Moment :=
  match text with
  | _ :: _ :: ':' :: _ =>
    match time? text with
    | some (clock, []) => some (.time clock)
    | _ => none
  | _ =>
    match date? text with
    | some (day, []) => some (.date day)
    | some (day, mark :: rest) =>
      if mark = 'T' ∨ mark = 't' ∨ mark = ' ' then do
        let (clock, rest) ← time? rest
        some (.both day clock (← offset? rest))
      else none
    | none => none

def padded (width n : Nat) : List Char :=
  let digits := Nat.toDigits 10 n
  List.replicate (width - digits.length) '0' ++ digits

def dateText (date : Date) : List Char :=
  padded 4 date.year ++ '-' :: padded 2 date.month ++ '-' :: padded 2 date.day

def timeText (time : Time) : List Char :=
  padded 2 time.hour ++ ':' :: padded 2 time.minute ++ ':' :: padded 2 time.second ++
    if time.fraction.isEmpty then [] else '.' :: time.fraction

def offsetText : Offset → List Char
  | .universal => ['Z']
  | .hours hours minutes =>
    (if hours < 0 then '-' else '+') :: padded 2 hours.natAbs ++ ':' :: padded 2 minutes

def text : Moment → String
  | .date day => String.ofList (dateText day)
  | .time clock => String.ofList (timeText clock)
  | .both day clock offset =>
    String.ofList (dateText day ++ 'T' :: timeText clock ++ (offset.map offsetText).getD [])

end Moment

end Toml

end SeriesCursor
