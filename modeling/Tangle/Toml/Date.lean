import Tangle.Text.CharacterReference

namespace Tangle.Toml

/-!
# Dates and times in settings

A date stands for itself, and so does a time; behind a date a time may follow,
and behind that its distance from universal time.  They are kept as they are
written, but for the letters, for what goes beyond billionths of a second, and
for zeros at the end of a fraction.
-/

/-- The characters of dates and times, but for a blank between the two. -/
def isDateCharacter (character : Char) : Bool :=
  character.isDigit || ['-', ':', '.', '+', 'T', 't', 'Z', 'z'].contains character

namespace Date

/-- Whether some digits write a number within bounds. -/
def areWithin (low high : Nat) (digits : List Char) : Bool :=
  (Text.numberFrom? Text.decimalValue? 10 0 digits).any fun number =>
    low ≤ number && number ≤ high

/-- The number of days in a month of a year. -/
def daysInMonth (year month : Nat) : Nat :=
  if month = 2 then if year % 4 = 0 && (year % 100 != 0 || year % 400 = 0) then 29 else 28
  else if [4, 6, 9, 11].contains month then 30
  else 31

/-- Whether digits write a day of a calendar: its year, its month and its day. -/
def isDay (year month day : List Char) : Bool :=
  match Text.numberFrom? Text.decimalValue? 10 0 year,
    Text.numberFrom? Text.decimalValue? 10 0 month with
  | some yearNumber, some monthNumber =>
      1 ≤ monthNumber && monthNumber ≤ 12 &&
        areWithin 1 (daysInMonth yearNumber monthNumber) day
  | _, _ => false

/-- The fraction of a second at the front of a text, as it is kept, and what stands behind it. -/
def fraction? : List Char → Option (List Char × List Char)
  | '.' :: text =>
      let digits := text.takeWhile Char.isDigit
      let kept := ((digits.take 9).reverse.dropWhile (· == '0')).reverse
      if digits.isEmpty then none
      else some (if kept.isEmpty then [] else '.' :: kept, text.dropWhile Char.isDigit)
  | text => some ([], text)

/-- A distance from universal time as it is kept. -/
def offset? : List Char → Option (List Char)
  | ['Z'] => some ['Z']
  | ['z'] => some ['Z']
  | [sign, a, b, ':', c, d] =>
      if (sign == '+' || sign == '-') && areWithin 0 23 [a, b] && areWithin 0 59 [c, d] then
        if [a, b, c, d].all (· == '0') then some ['+', a, b, ':', c, d]
        else some [sign, a, b, ':', c, d]
      else none
  | _ => none

/-- A time as it is kept, with its distance from universal time where there may be one. -/
def time? (mayHaveOffset : Bool) : List Char → Option (List Char)
  | a :: b :: ':' :: c :: d :: ':' :: e :: f :: rest =>
      if areWithin 0 23 [a, b] && areWithin 0 59 [c, d] && areWithin 0 60 [e, f] then
        match fraction? rest with
        | none => none
        | some (fraction, behind) =>
            let time := [a, b, ':', c, d, ':', e, f] ++ fraction
            if behind.isEmpty then some time
            else if mayHaveOffset then (offset? behind).map (time ++ ·)
            else none
      else none
  | _ => none

/-- A date, a time or both as they are kept. -/
def kept? : List Char → Option (List Char)
  | a :: b :: c :: d :: '-' :: e :: f :: '-' :: g :: h :: rest =>
      let day := [a, b, c, d, '-', e, f, '-', g, h]
      if isDay [a, b, c, d] [e, f] [g, h] then
        match rest with
        | [] => some day
        | 'T' :: time => (time? true time).map (day ++ 'T' :: ·)
        | 't' :: time => (time? true time).map (day ++ 'T' :: ·)
        | _ => none
      else none
  | text => time? false text

end Date

/-- Whether a text goes on, behind a blank, with a digit. -/
def hasTimeBehind : List Char → Bool
  | ' ' :: digit :: _ => digit.isDigit
  | _ => false

/-- What a text starts with in characters of dates, over a blank in front of a time. -/
def dateFront (text : List Char) : List Char × List Char :=
  let front := text.takeWhile isDateCharacter
  let behind := text.dropWhile isDateCharacter
  if hasTimeBehind behind then
    (front ++ 'T' :: behind.tail.takeWhile isDateCharacter,
      behind.tail.dropWhile isDateCharacter)
  else (front, behind)

/-- Read a date, a time, or both. -/
def date? (text : List Char) : Option (String × List Char) :=
  (Date.kept? (dateFront text).1).map fun kept => (String.ofList kept, (dateFront text).2)

end Tangle.Toml
