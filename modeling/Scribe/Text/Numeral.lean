/-!
# Numerals

Reading and writing decimal and hexadecimal numerals. A numeral is read digit by
digit: a character that is no digit and a value that leaves the range are two
different faults, and the first of them in the text is the one reported.
-/

namespace Scribe.Text

/-- Value of a decimal digit. -/
def digit? (c : Char) : Option Nat :=
  if '0' ≤ c ∧ c ≤ '9' then some (c.toNat - '0'.toNat) else none

/-- Value of a hexadecimal digit of either case. -/
def hexDigit? (c : Char) : Option Nat :=
  if '0' ≤ c ∧ c ≤ '9' then some (c.toNat - '0'.toNat)
  else if 'a' ≤ c ∧ c ≤ 'f' then some (c.toNat - 'a'.toNat + 10)
  else if 'A' ≤ c ∧ c ≤ 'F' then some (c.toNat - 'A'.toNat + 10)
  else none

/-- The decimal digit of a value below ten. -/
def digitChar (value : Nat) : Char :=
  Char.ofNat ('0'.toNat + value)

/-- The lower-case hexadecimal digit of a value below sixteen. -/
def hexChar (value : Nat) : Char :=
  if value < 10 then digitChar value else Char.ofNat ('a'.toNat + (value - 10))

/-- Decimal digits of a number, most significant first; zero is a single digit. -/
def decimalChars (value : Nat) : List Char :=
  if value < 10 then [digitChar value]
  else decimalChars (value / 10) ++ [digitChar (value % 10)]
termination_by value
decreasing_by omega

/-- A number in decimal. -/
def decimal (value : Nat) : String :=
  String.ofList (decimalChars value)

/-- A signed number in decimal. -/
def signedDecimal (value : Int) : String :=
  if value < 0 then "-" ++ decimal value.natAbs else decimal value.natAbs

/-- A number in decimal, filled with zeros on the left up to `width` digits. -/
def paddedDecimal (width value : Nat) : String :=
  let digits := decimalChars value
  String.ofList (List.replicate (width - digits.length) '0' ++ digits)

/-- The last `width` hexadecimal digits of a number. -/
def hexChars : (width : Nat) → (value : Nat) → List Char
  | 0, _ => []
  | width + 1, value => hexChars width (value / 16) ++ [hexChar (value % 16)]

/-- The last `width` hexadecimal digits of a number, as a string. -/
def hex (width value : Nat) : String :=
  String.ofList (hexChars width value)

/-- Two hexadecimal digits for each byte. -/
def hexOfBytes (bytes : ByteArray) : String :=
  String.ofList (bytes.toList.flatMap fun byte => hexChars 2 byte.toNat)

/-- The bytes of pairs of hexadecimal digits. -/
def readHexPairs : List Char → Option (List UInt8)
  | [] => some []
  | [_] => none
  | high :: low :: rest => do
      let value := (← hexDigit? high) * 16 + (← hexDigit? low)
      return UInt8.ofNat value :: (← readHexPairs rest)

/-- The bytes that a text of hexadecimal digits stands for. -/
def bytesOfHex (text : List Char) : Option ByteArray :=
  (readHexPairs text).map fun bytes => ⟨bytes.toArray⟩

/-- Why a text is no integer of the range asked for. -/
inductive IntegerFault
  | empty
  | invalidDigit
  | tooLarge
  | tooSmall
deriving DecidableEq, Repr

/-- The wording of an integer fault. -/
def IntegerFault.message : IntegerFault → String
  | .empty => "cannot parse integer from empty string"
  | .invalidDigit => "invalid digit found in string"
  | .tooLarge => "number too large to fit in target type"
  | .tooSmall => "number too small to fit in target type"

/-- Read digits after the number `value`, never exceeding `limit`. -/
def readDigits (limit : Nat) (overflow : IntegerFault) :
    (value : Nat) → List Char → Except IntegerFault Nat
  | value, [] => .ok value
  | value, c :: rest =>
      match digit? c with
      | none => .error .invalidDigit
      | some digit =>
          if value * 10 + digit ≤ limit then
            readDigits limit overflow (value * 10 + digit) rest
          else .error overflow

/-- Read a number of at most `limit`: one optional plus sign, then digits. -/
def readNatural (limit : Nat) : List Char → Except IntegerFault Nat
  | [] => .error .empty
  | ['+'] => .error .invalidDigit
  | '+' :: digits => readDigits limit .tooLarge 0 digits
  | digits => readDigits limit .tooLarge 0 digits

/-- Read an integer of `-(limit + 1)` to `limit`: one optional sign, then digits. -/
def readInteger (limit : Nat) : List Char → Except IntegerFault Int
  | [] => .error .empty
  | ['+'] => .error .invalidDigit
  | ['-'] => .error .invalidDigit
  | '+' :: digits => (readDigits limit .tooLarge 0 digits).map Int.ofNat
  | '-' :: digits => (readDigits (limit + 1) .tooSmall 0 digits).map (fun n => -Int.ofNat n)
  | digits => (readDigits limit .tooLarge 0 digits).map Int.ofNat

/-- Greatest 16-bit number. -/
def max16 : Nat := 0xffff

/-- Greatest 32-bit number. -/
def max32 : Nat := 0xffffffff

/-- Greatest 64-bit number. -/
def max64 : Nat := 0xffffffffffffffff

/-- Greatest signed 64-bit number. -/
def maxSigned64 : Nat := 0x7fffffffffffffff

end Scribe.Text
