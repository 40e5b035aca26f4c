import GraphGateway.Text.Blank
import GraphGateway.Time.Calendar
import GraphGateway.Time.Instant

/-!
# Dates and times as text

Timestamps are written in the form of RFC 3339, in UTC, with no fraction
or one of three, six or nine digits. They are read more freely: blanks may
stand before numbers and separators, numbers may have fewer digits, a year
with a sign may have more, and the offset may be any within a day.

`Instant.text` writes and `Instant.parse` reads; `TimeError` says why a
text is not a timestamp.
-/

namespace GraphGateway.Time

/-- **Why a text is no timestamp.** -/
inductive TimeError where
  /-- The text ends too early. -/
  | tooShort
  /-- Something else stands where a number or a separator should. -/
  | malformed
  /-- A number is not allowed where it stands. -/
  | outOfRange
  /-- The local time has no counterpart in UTC. -/
  | impossible
  /-- Text follows the timestamp. -/
  | trailing
  deriving DecidableEq, Repr

/-- The wording of an error. -/
def TimeError.message : TimeError → String
  | tooShort => "premature end of input"
  | malformed => "input contains invalid characters"
  | outOfRange => "input is out of range"
  | impossible => "no possible date and time matching input"
  | trailing => "trailing input"

namespace Rfc3339

/-- A reader of a piece of a text: the piece's meaning and the text behind
it. -/
abbrev Reader (α : Type) := List Char → Except TimeError (α × List Char)

/-- The value of a decimal digit. -/
def digitValue (c : Char) : Nat := c.toNat - '0'.toNat

/-- Digits read as a number, at most `limit` of them; a number beyond 63
bits is out of range. -/
def readDigits (value : Nat) : Nat → Reader Nat
  | 0, s => .ok (value, s)
  | _ + 1, [] => .ok (value, [])
  | limit + 1, c :: rest =>
    if c.isDigit then
      let next := value * 10 + digitValue c
      if next ≥ 9223372036854775808 then .error .outOfRange else readDigits next limit rest
    else .ok (value, c :: rest)

/-- A number of one to `limit` digits. -/
def readNumber (limit : Nat) : Reader Nat
  | [] => .error .tooShort
  | c :: rest => if c.isDigit then readDigits 0 limit (c :: rest) else .error .malformed

/-- A number behind blanks, from `low` to `high`, of at most two digits. -/
def readField (low high : Nat) : Reader Nat := fun s => do
  let (n, rest) ← readNumber 2 (Text.trimStart s)
  if low ≤ n && n ≤ high then return (n, rest) else throw .outOfRange

/-- The year: four digits, or any number of digits behind a sign. -/
def readYear : Reader Int := fun s => do
  let s := Text.trimStart s
  let (year, rest) ← match s with
    | '-' :: digits => do
      let (n, rest) ← readNumber digits.length digits
      pure (-(n : Int), rest)
    | '+' :: digits => do
      let (n, rest) ← readNumber digits.length digits
      pure ((n : Int), rest)
    | _ => do
      let (n, rest) ← readNumber 4 s
      pure ((n : Int), rest)
  if -2147483648 ≤ year && year < 2147483648 then return (year, rest) else throw .outOfRange

/-- A separator behind blanks. -/
def readSeparator (separator : Char) : Reader Unit := fun s =>
  match Text.trimStart s with
  | [] => .error .tooShort
  | c :: rest => if c == separator then .ok ((), rest) else .error .malformed

/-- The letter or the blank between the date and the time. -/
def readMiddle : Reader Unit
  | [] => .error .tooShort
  | c :: rest => if c == 't' || c == 'T' || c == ' ' then .ok ((), rest) else .error .malformed

/-- The fraction of a second in nanoseconds, zero if there is none; digits
behind the ninth do not count. -/
def readFraction : Reader Nat
  | '.' :: rest => do
    let (n, behind) ← readNumber 9 rest
    let digits := rest.length - behind.length
    return (n * Nat.pow 10 (9 - digits), behind.dropWhile Char.isDigit)
  | s => .ok (0, s)

/-- Two digits. -/
def readPair : Reader (Nat × Nat)
  | a :: b :: rest =>
    if a.isDigit && b.isDigit then .ok ((digitValue a, digitValue b), rest) else .error .malformed
  | [c] => if c.toNat < 0x80 then .error .tooShort else .error .malformed
  | [] => .error .tooShort

/-- The minutes of an offset. -/
def readOffsetMinutes : Reader Nat := fun s => do
  let ((tens, ones), rest) ← readPair s
  if tens < 6 then return (tens * 10 + ones, rest) else throw .outOfRange

/-- Whether a character may stand between the hours and the minutes of an
offset. -/
def isOffsetSeparator (c : Char) : Bool := c == ':' || Text.isBlank c

/-- The offset from UTC in seconds: the word "UTC", the letter Z, or a
sign with hours and minutes. -/
def readOffset : Reader Int := fun s =>
  let signed := fun (sign : Int) (rest : List Char) => do
    let ((tens, ones), rest) ← readPair rest
    let (minutes, rest) ← readOffsetMinutes (rest.dropWhile isOffsetSeparator)
    return (sign * ((tens * 10 + ones) * 3600 + minutes * 60 : Nat), rest)
  match s with
  | [] => .error .tooShort
  | c :: rest =>
    if (s.take 3).map Char.toLower == ['u', 't', 'c'] then .ok (0, s.drop 3)
    else if c == 'Z' || c == 'z' then .ok (0, rest)
    else if c == '+' then signed 1 rest
    else if c == '-' || c == '\u2212' then signed (-1) rest
    else .error .malformed

/-- The first year that a date may have. -/
def firstYear : Int := -262143

/-- The last year that a date may have. -/
def lastYear : Int := 262142

/-- The number of a valid date of the years that are allowed. -/
def dayOf (date : Date) : Except TimeError Int :=
  if date.isValid && firstYear ≤ date.year && date.year ≤ lastYear then .ok date.dayNumber
  else .error .outOfRange

end Rfc3339

open Rfc3339 in
/-- **Reads a timestamp.** -/
def Instant.parse (text : List Char) : Except TimeError Instant := do
  let (year, s) ← readYear text
  let (_, s) ← readSeparator '-' s
  let (month, s) ← readField 1 12 s
  let (_, s) ← readSeparator '-' s
  let (day, s) ← readField 1 31 s
  let (_, s) ← readMiddle s
  let (hour, s) ← readField 0 23 s
  let (_, s) ← readSeparator ':' s
  let (minute, s) ← readField 0 59 s
  let (_, s) ← readSeparator ':' s
  let (second, s) ← readField 0 60 s
  let (fraction, s) ← readFraction s
  let (offset, s) ← readOffset (Text.trimStart s)
  if !Text.isAllBlank s then throw .trailing
  let days ← dayOf { year, month, day }
  if offset.natAbs ≥ 86400 then throw .outOfRange
  -- a leap second belongs to the second before it
  let leap := second == 60
  let clock : Nat := hour * 3600 + minute * 60 + (if leap then 59 else second)
  let seconds := days * 86400 + clock - offset
  let first := (Date.dayNumber ⟨firstYear, 1, 1⟩) * 86400
  let beyond := (Date.dayNumber ⟨lastYear + 1, 1, 1⟩) * 86400
  if seconds < first || seconds ≥ beyond then throw .impossible
  return { seconds, nanos := fraction + (if leap then 1000000000 else 0) }

namespace Rfc3339

/-- A number with zeros before it up to a width. -/
def padded (width n : Nat) : List Char :=
  let digits := Nat.toDigits 10 n
  List.replicate (width - digits.length) '0' ++ digits

/-- A year: four digits, with a sign and more digits where that is not
enough. -/
def yearText (year : Int) : List Char :=
  if 0 ≤ year && year ≤ 9999 then padded 4 year.natAbs
  else (if year < 0 then '-' else '+') :: padded 4 year.natAbs

/-- The fraction of a second: three, six or nine digits, or none at all if
it is zero. -/
def fractionText (nanos : Nat) : List Char :=
  if nanos == 0 then []
  else if nanos % 1000000 == 0 then '.' :: padded 3 (nanos / 1000000)
  else if nanos % 1000 == 0 then '.' :: padded 6 (nanos / 1000)
  else '.' :: padded 9 nanos

end Rfc3339

open Rfc3339 in
/-- The timestamp of an instant without its offset. -/
def Instant.localText (t : Instant) : List Char :=
  let date := Date.ofDayNumber (t.seconds / 86400)
  let clock := (t.seconds % 86400).toNat
  let second := clock % 60 + t.nanos / 1000000000
  yearText date.year ++ '-' :: padded 2 date.month ++ '-' :: padded 2 date.day ++
    'T' :: padded 2 (clock / 3600) ++ ':' :: padded 2 (clock / 60 % 60) ++
    ':' :: padded 2 second ++ fractionText (t.nanos % 1000000000)

/-- **The timestamp of an instant**, with the letter Z for UTC. -/
def Instant.text (t : Instant) : String := String.ofList (t.localText ++ ['Z'])

/-- The timestamp of an instant with a numeric offset. -/
def Instant.offsetText (t : Instant) : String := String.ofList (t.localText ++ "+00:00".toList)

end GraphGateway.Time
