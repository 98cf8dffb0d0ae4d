import SpecLint.Number.Decimal
import SpecLint.Text.Search

/-!
Dates, times of day and lengths of time as text.
-/

namespace SpecLint.Moment

/-- The number that two digits denote. -/
def twoDigits? (tens units : Char) : Option Nat :=
  if tens.isDigit && units.isDigit then Decimal.natural? 10 [tens, units] else none

/-- Whether a year has a leap day. -/
def isLeapYear (year : Nat) : Bool :=
  year % 4 == 0 && (year % 100 != 0 || year % 400 == 0)

/-- The number of days of a month; zero for what is no month. -/
def daysIn (year month : Nat) : Nat :=
  if [1, 3, 5, 7, 8, 10, 12].contains month then 31
  else if [4, 6, 9, 11].contains month then 30
  else if month = 2 then if isLeapYear year then 29 else 28
  else 0

/-- A day of the calendar: four digits, two and two, with hyphens between them. -/
def isDate : List Char → Bool
  | [a, b, c, d, '-', e, f, '-', g, h] =>
    match twoDigits? a b, twoDigits? c d, twoDigits? e f, twoDigits? g h with
    | some century, some year, some month, some day =>
      1 ≤ day && day ≤ daysIn (100 * century + year) month
    | _, _, _, _ => false
  | _ => false

/-- The minutes by which an offset is ahead of universal time. -/
def offset? : List Char → Option Int
  | ['Z'] | ['z'] => some 0
  | [sign, a, b, ':', c, d] =>
    match twoDigits? a b, twoDigits? c d with
    | some hours, some minutes =>
      if 23 < hours || 59 < minutes then none
      else if sign = '+' then some (60 * hours + minutes)
      else if sign = '-' then some (-(60 * hours + minutes : Int))
      else none
    | _, _ => none
  | _ => none

/-- The offset after a fraction of a second, if there is one; a point needs a digit. -/
def afterFraction? : List Char → Option (List Char)
  | '.' :: rest => if rest.head?.any Char.isDigit then some (rest.dropWhile Char.isDigit) else none
  | rest => some rest

/-- A time of day with its offset. The sixtieth second is only in the last minute of a day of
universal time. -/
def isTime : List Char → Bool
  | a :: b :: ':' :: c :: d :: ':' :: e :: f :: rest =>
    match twoDigits? a b, twoDigits? c d, twoDigits? e f, (afterFraction? rest).bind offset? with
    | some hour, some minute, some second, some ahead =>
      hour ≤ 23 && minute ≤ 59 &&
        (second ≤ 59 ||
          (second == 60 && (60 * (hour : Int) + minute - ahead) % 1440 == 1439))
    | _, _, _, _ => false
  | _ => false

/-- A date and a time of day with the letter T between them. -/
def isDateTime (text : List Char) : Bool :=
  match text.span fun c => c != 'T' && c != 't' with
  | (date, _ :: time) => isDate date && isTime time
  | _ => false

/-- The units in a part of a length of time: after each number its letter. -/
def units? : (afterDigit : Bool) → List Char → Option (List Char)
  | false, [] => some []
  | true, [] => none
  | afterDigit, c :: rest =>
    if c.isDigit then units? true rest
    else if afterDigit then (units? false rest).map (c :: ·)
    else none

/-- Whether some units stand in their order, none twice. -/
def inOrder (order units : List Char) : Bool :=
  !units.isEmpty && units.isSublist order

/-- A length of time: weeks, or years, months and days, and after the letter T hours, minutes and
seconds. -/
def isDuration : List Char → Bool
  | 'P' :: rest =>
    match rest.span (· != 'T') with
    | (days, []) => (units? false days).any fun units => units == ['W'] || inOrder ['Y', 'M', 'D'] units
    | (days, _ :: hours) =>
      (units? false days).any (fun units => units.isEmpty || inOrder ['Y', 'M', 'D'] units) &&
        (units? false hours).any (inOrder ['H', 'M', 'S'])
  | _ => false

end SpecLint.Moment
