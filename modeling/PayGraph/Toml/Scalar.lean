import PayGraph.Data
import PayGraph.Number.Reading

/-!
# Numbers and moments in TOML

Digits may be joined by single underscores.  A numeral ends where no longer one could be read, so
whatever follows it is left to the reader of the line.
-/

namespace PayGraph
namespace Toml

/-- Digits after the first, with single underscores between them, and what follows.  The digits
read so far are in reverse. -/
def digitRun (isDigit : Char → Bool) (reversed : List Char) : List Char → List Char × List Char
  | '_' :: digit :: rest =>
    if isDigit digit then digitRun isDigit (digit :: reversed) rest
    else (reversed.reverse, '_' :: digit :: rest)
  | digit :: rest =>
    if isDigit digit then digitRun isDigit (digit :: reversed) rest
    else (reversed.reverse, digit :: rest)
  | [] => (reversed.reverse, [])

/-- Digits that start with one and what follows; there may be none. -/
def digits (isDigit : Char → Bool) : List Char → List Char × List Char
  | first :: rest => if isDigit first then digitRun isDigit [first] rest else ([], first :: rest)
  | [] => ([], [])

/-- Digits and base of a prefixed whole number, if the mark of a base is followed by digits. -/
def prefixed? (input : List Char) : Option (Nat × List Char × List Char) :=
  let based (base : Nat) (isDigit : Char → Bool) (rest : List Char) :=
    match digits isDigit rest with
    | ([], _) => none
    | (written, after) => some (base, written, after)
  match input with
  | '0' :: 'x' :: rest => based 16 (fun digit => (hexValue? digit).isSome) rest
  | '0' :: 'b' :: rest => based 2 (fun digit => digit = '0' || digit = '1') rest
  | '0' :: 'o' :: rest => based 8 (fun digit => '0' ≤ digit && digit ≤ '7') rest
  | _ => none

/-- Number written by digits of a base. -/
def ofBase (base : Nat) (written : List Char) : Nat :=
  written.foldl (fun total digit => base * total + (hexValue? digit).getD 0) 0

/-- Fraction digits of a numeral, absent unless its point is followed by digits. -/
def fractionPart (input : List Char) : List Char × List Char :=
  match input with
  | '.' :: rest =>
    match digits Char.isDigit rest with
    | ([], _) => ([], input)
    | found => found
  | _ => ([], input)

/-- Exponent of a numeral, absent unless its marker is followed by digits. -/
def exponentPart (input : List Char) : Option Int × List Char :=
  match input with
  | marker :: rest =>
    if marker = 'e' ∨ marker = 'E' then
      let (negative, unsigned) :=
        match rest with
        | '-' :: after => (true, after)
        | '+' :: after => (false, after)
        | after => (false, after)
      match digits Char.isDigit unsigned with
      | ([], _) => (none, input)
      | (written, after) =>
        let magnitude : Int := Decimal.ofDigits written
        (some (if negative then -magnitude else magnitude), after)
    else (none, input)
  | [] => (none, input)

/-- A decimal numeral without its sign. -/
def decimal (negative : Bool) : Scan Data := fun input =>
  let (whole, afterWhole) :=
    match input with
    | '0' :: rest => (['0'], rest)
    | _ => digits Char.isDigit input
  if whole.isEmpty then .error .malformed
  else
    let (fraction, afterFraction) := fractionPart afterWhole
    let (exponent?, rest) := exponentPart afterFraction
    if fraction.isEmpty && exponent?.isNone then
      (boundedWhole negative whole).map fun value => (.whole value, rest)
    else
      let value := Decimal.ofParts whole fraction (exponent?.getD 0)
      .ok (.real (value.toBinary64 negative), rest)

/-- A number or one of the words for the values without digits. -/
def number : Scan Data := fun input =>
  match prefixed? input with
  | some (base, written, rest) => .ok (.whole (ofBase base written), rest)
  | none =>
    match input with
    | 'i' :: 'n' :: 'f' :: rest => .ok (.real (.infinite false), rest)
    | '+' :: 'i' :: 'n' :: 'f' :: rest => .ok (.real (.infinite false), rest)
    | '-' :: 'i' :: 'n' :: 'f' :: rest => .ok (.real (.infinite true), rest)
    | 'n' :: 'a' :: 'n' :: rest => .ok (.real .nan, rest)
    | '+' :: 'n' :: 'a' :: 'n' :: rest => .ok (.real .nan, rest)
    | '-' :: 'n' :: 'a' :: 'n' :: rest => .ok (.real .nan, rest)
    | '-' :: rest => decimal true rest
    | '+' :: rest => decimal false rest
    | _ => decimal false input

/-- Number of two digits within bounds. -/
def twoDigits? (least most : Nat) : List Char → Option (Nat × List Char)
  | first :: second :: rest =>
    let value := Decimal.ofDigits [first, second]
    if first.isDigit && second.isDigit && least ≤ value && value ≤ most then some (value, rest)
    else none
  | _ => none

/-- What follows an expected character. -/
def after? (character : Char) : List Char → Option (List Char)
  | first :: rest => if first = character then some rest else none
  | [] => none

/-- What follows a time of day with seconds and perhaps a fraction of them. -/
def time? (input : List Char) : Option (List Char) := do
  let (_, afterHour) ← twoDigits? 0 23 input
  let (_, afterMinute) ← twoDigits? 0 59 (← after? ':' afterHour)
  let (_, rest) ← twoDigits? 0 59 (← after? ':' afterMinute)
  match rest with
  | '.' :: fraction =>
    match Decimal.spanDigits fraction with
    | ([], _) => return rest
    | (_, afterFraction) => return afterFraction
  | _ => return rest

/-- What follows an offset from universal time, which may be absent. -/
def afterOffset (input : List Char) : List Char :=
  let signed (rest : List Char) : Option (List Char) := do
    let (_, afterHour) ← twoDigits? 0 23 rest
    let (_, final) ← twoDigits? 0 59 (← after? ':' afterHour)
    return final
  match input with
  | 'Z' :: rest | 'z' :: rest => rest
  | '+' :: rest | '-' :: rest => (signed rest).getD input
  | _ => input

/-- The year has a leap day. -/
def isLeap (year : Nat) : Bool :=
  year % 4 = 0 && (year % 100 ≠ 0 || year % 400 = 0)

/-- Number of days of a month. -/
def daysOf (year month : Nat) : Nat :=
  if month = 2 then (if isLeap year then 29 else 28)
  else if month = 4 ∨ month = 6 ∨ month = 9 ∨ month = 11 then 30
  else 31

/-- A date as it is written, whether it exists, and what follows it. -/
def date? : List Char → Option (Bool × List Char)
  | a :: b :: c :: d :: '-' :: rest => do
    let year := [a, b, c, d]
    guard (year.all Char.isDigit)
    let (month, afterMonth) ← twoDigits? 1 12 rest
    let (day, final) ← twoDigits? 1 31 (← after? '-' afterMonth)
    let yearNumber := Decimal.ofDigits year
    return (decide (0 < yearNumber ∧ day ≤ daysOf yearNumber month), final)
  | _ => none

/-- What follows the time of day that may come after a date. -/
def afterDateTime (input : List Char) : List Char :=
  match input with
  | mark :: rest =>
    if mark = 'T' ∨ mark = 't' ∨ mark = ' ' then
      match time? rest with
      | some final => afterOffset final
      | none => input
    else input
  | [] => input

/-- A date, a time of day or both, if the text starts with one. -/
def moment? (input : List Char) : Option (Except ParseFault (Data × List Char)) :=
  let taken (rest : List Char) : Data :=
    .moment (String.ofList (input.take (input.length - rest.length)))
  match date? input with
  | some (exists?, rest) =>
    let final := afterDateTime rest
    some (if exists? then .ok (taken final, final) else .error .malformed)
  | none => (time? input).map fun rest => .ok (taken rest, rest)

end Toml
end PayGraph
