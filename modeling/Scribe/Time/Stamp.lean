import Scribe.Text.Blank
import Scribe.Text.Numeral
import Scribe.Time.Calendar

/-!
# Time stamps

A stamp is the reading of a clock together with the offset of that clock from
universal time. It is written with a date, the letter `T`, a time with no
fraction or one of three, six or nine digits, and the offset. Reading is more
lenient: fields may have fewer digits and blanks before them, a blank or a small
letter may stand for `T`, and universal time may be named.
-/

namespace Scribe.Time

open Scribe.Text

/-- The reading of a clock. A leap second is a nanosecond count of at least one
second. -/
structure Stamp where
  date : Day
  hour : Nat
  minute : Nat
  second : Nat
  nano : Nat
  offset : Int
deriving DecidableEq, Repr

/-- Why a text is no time stamp. -/
inductive StampFault
  | outOfRange
  | impossible
  | invalid
  | tooShort
  | tooLong
deriving DecidableEq, Repr

/-- The wording of a fault. -/
def StampFault.message : StampFault → String
  | .outOfRange => "input is out of range"
  | .impossible => "no possible date and time matching input"
  | .invalid => "input contains invalid characters"
  | .tooShort => "premature end of input"
  | .tooLong => "trailing input"

namespace Stamp

/-- Seconds from the first of January 1970 in universal time, leap seconds left
out. -/
def epochSeconds (stamp : Stamp) : Int :=
  stamp.date.number * 86400 + stamp.hour * 3600 + stamp.minute * 60 + stamp.second -
    stamp.offset

/-- Milliseconds from the first of January 1970. -/
def epochMillis (stamp : Stamp) : Int :=
  stamp.epochSeconds * 1000 + stamp.nano / 1000000

/-- Whether two stamps mean the same instant. -/
def sameInstant (left right : Stamp) : Bool :=
  left.epochSeconds == right.epochSeconds && left.nano == right.nano

/-- The stamp of a clock in universal time at a number of seconds. -/
def ofEpoch (seconds : Int) (nano : Nat) : Stamp :=
  let rest := (seconds % 86400).toNat
  { date := Day.ofNumber (seconds / 86400)
    hour := rest / 3600
    minute := rest / 60 % 60
    second := rest % 60
    nano
    offset := 0 }

/-- The same instant on a clock in universal time. -/
def toUniversal (stamp : Stamp) : Stamp :=
  ofEpoch stamp.epochSeconds stamp.nano

/-- First and last second that a stamp can mean. -/
def epochRange : Int × Int :=
  ((Day.mk yearRange.1 1 1).number * 86400, (Day.mk yearRange.2 12 31).number * 86400 + 86399)

/-! ## Writing -/

/-- Four digits, or a sign and at least four. -/
def renderYear (year : Int) : String :=
  if 0 ≤ year ∧ year ≤ 9999 then paddedDecimal 4 year.natAbs
  else (if year < 0 then "-" else "+") ++ paddedDecimal 4 year.natAbs

/-- No fraction, or the shortest of three, six and nine digits that is exact. -/
def renderFraction (nano : Nat) : String :=
  if nano = 0 then ""
  else if nano % 1000000 = 0 then "." ++ paddedDecimal 3 (nano / 1000000)
  else if nano % 1000 = 0 then "." ++ paddedDecimal 6 (nano / 1000)
  else "." ++ paddedDecimal 9 nano

/-- Hours and minutes of an offset with its sign. -/
def renderOffset (offset : Int) : String :=
  let minutes := offset.natAbs / 60
  (if offset < 0 then "-" else "+") ++ paddedDecimal 2 (minutes / 60) ++ ":" ++
    paddedDecimal 2 (minutes % 60)

/-- Everything in front of the offset. -/
def renderClock (stamp : Stamp) : String :=
  let leap := stamp.nano / 1000000000
  renderYear stamp.date.year ++ "-" ++ paddedDecimal 2 stamp.date.month ++ "-" ++
    paddedDecimal 2 stamp.date.day ++ "T" ++ paddedDecimal 2 stamp.hour ++ ":" ++
    paddedDecimal 2 stamp.minute ++ ":" ++ paddedDecimal 2 (stamp.second + leap) ++
    renderFraction (stamp.nano % 1000000000)

/-- A stamp with its offset in digits. -/
def renderNumeric (stamp : Stamp) : String :=
  stamp.renderClock ++ renderOffset stamp.offset

/-- A stamp with the letter `Z` for universal time. -/
def render (stamp : Stamp) : String :=
  stamp.renderClock ++ (if stamp.offset = 0 then "Z" else renderOffset stamp.offset)

/-! ## Reading

Reading a field gives its value and the rest of the text. -/

/-- Read up to `count` further digits behind the number `value`. -/
def readMore : (count : Nat) → (value : Nat) → List Char → Except StampFault (Nat × List Char)
  | 0, value, rest => .ok (value, rest)
  | _, value, [] => .ok (value, [])
  | count + 1, value, c :: rest =>
      match digit? c with
      | none => .ok (value, c :: rest)
      | some digit =>
          if value * 10 + digit ≤ maxSigned64 then readMore count (value * 10 + digit) rest
          else .error .outOfRange

/-- Read a number of one to `count` digits. -/
def readNumber (count : Nat) : List Char → Except StampFault (Nat × List Char)
  | [] => .error .tooShort
  | c :: rest =>
      match digit? c with
      | none => .error .invalid
      | some digit => readMore (count - 1) digit rest

/-- Skip blanks, then read a number of one or two digits within bounds. -/
def readField (low high : Nat) (text : List Char) : Except StampFault (Nat × List Char) := do
  let (value, rest) ← readNumber 2 (trimLeft text)
  if low ≤ value ∧ value ≤ high then .ok (value, rest) else .error .outOfRange

/-- Skip blanks, then read a sign with any number of digits, or four digits. -/
def readYear (text : List Char) : Except StampFault (Int × List Char) := do
  let (year, rest) ←
    match trimLeft text with
    | '-' :: digits => (readNumber digits.length digits).map fun (n, rest) => (-(n : Int), rest)
    | '+' :: digits => (readNumber digits.length digits).map fun (n, rest) => ((n : Int), rest)
    | digits => (readNumber 4 digits).map fun (n, rest) => ((n : Int), rest)
  if -0x80000000 ≤ year ∧ year < 0x80000000 then .ok (year, rest)
  else .error .outOfRange

/-- Skip blanks, then read one sign. -/
def readSign (sign : Char) (text : List Char) : Except StampFault (List Char) :=
  match trimLeft text with
  | [] => .error .tooShort
  | c :: rest => if c = sign then .ok rest else .error .invalid

/-- Read the digits of a fraction; those beyond the ninth do not count. -/
def readFraction : List Char → Except StampFault (Nat × List Char)
  | '.' :: digits => do
      let (value, rest) ← readNumber 9 digits
      .ok (value * Nat.pow 10 (9 - (digits.length - rest.length)),
        rest.dropWhile fun c => (digit? c).isSome)
  | text => .ok (0, text)

/-- Read two digits; a text of a single byte is too short for them. -/
def readPair : List Char → Except StampFault ((Nat × Nat) × List Char)
  | [] => .error .tooShort
  | [c] => if c.toNat < 128 then .error .tooShort else .error .invalid
  | c :: d :: rest =>
      match digit? c, digit? d with
      | some tens, some ones => .ok ((tens, ones), rest)
      | _, _ => .error .invalid

/-- Read an offset in hours and minutes, or a name of universal time. -/
def readOffset (text : List Char) : Except StampFault (Int × List Char) := do
  match text with
  | [] => .error .tooShort
  | c :: rest =>
      if (text.take 3).map Char.toUpper = ['U', 'T', 'C'] then return (0, text.drop 3)
      if c = 'Z' ∨ c = 'z' then return (0, rest)
      let negative ←
        if c = '+' then pure false
        else if c = '-' ∨ c = '\u2212' then pure true
        else throw .invalid
      let ((tens, ones), rest) ← readPair rest
      let ((high, low), rest) ← readPair (rest.dropWhile fun c => c == ':' || isBlank c)
      if 6 ≤ high then throw .outOfRange
      let seconds : Int := ((tens * 10 + ones) * 3600 + (high * 10 + low) * 60 : Nat)
      return (if negative then -seconds else seconds, rest)

/-- Whether a stamp stands in the calendar. -/
def check (stamp : Stamp) : Except StampFault Stamp :=
  if !stamp.date.valid || 86400 ≤ stamp.offset.natAbs then .error .outOfRange
  else if stamp.epochSeconds < epochRange.1 || epochRange.2 < stamp.epochSeconds then
    .error .impossible
  else .ok stamp

/-- Read a time stamp. -/
def parse (text : String) : Except StampFault Stamp := do
  let (year, rest) ← readYear text.toList
  let (month, rest) ← readField 1 12 (← readSign '-' rest)
  let (day, rest) ← readField 1 31 (← readSign '-' rest)
  let rest ←
    match rest with
    | [] => throw .tooShort
    | c :: rest => if c = 't' ∨ c = 'T' ∨ c = ' ' then pure rest else throw .invalid
  let (hour, rest) ← readField 0 23 rest
  let (minute, rest) ← readField 0 59 (← readSign ':' rest)
  let (second, rest) ← readField 0 60 (← readSign ':' rest)
  let (fraction, rest) ← readFraction rest
  let (offset, rest) ← readOffset (trimLeft rest)
  if !(trimLeft rest).isEmpty then throw .tooLong
  let leap := if second = 60 then 1 else 0
  check
    { date := ⟨year, month, day⟩
      hour
      minute
      second := second - leap
      nano := fraction + leap * 1000000000
      offset }

end Stamp

end Scribe.Time
