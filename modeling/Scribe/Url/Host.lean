import Scribe.Text.Numeral
import Scribe.Url.Encode
import Scribe.Url.Name

/-!
# Hosts

The host of an address is a name or a number of one of two forms: four parts of
eight bits, each of which may be written in three bases and the last of which may
stand for several, or eight groups of sixteen bits, of which one run of zeros may be
left out.
-/

namespace Scribe.Url

open Scribe.Text

/-- Why a text is no address. -/
inductive UrlFault
  | emptyHost
  | invalidName
  | invalidPort
  | invalidV4
  | invalidV6
  | invalidHostCharacter
  | relative
deriving DecidableEq, Repr

/-- The wording of a fault. -/
def UrlFault.message : UrlFault → String
  | .emptyHost => "empty host"
  | .invalidName => "invalid international domain name"
  | .invalidPort => "invalid port number"
  | .invalidV4 => "invalid IPv4 address"
  | .invalidV6 => "invalid IPv6 address"
  | .invalidHostCharacter => "invalid domain character"
  | .relative => "relative URL without a base"

/-- The host of an address. -/
inductive Host
  | name (name : String)
  | v4 (address : Nat)
  | v6 (groups : List Nat)
deriving DecidableEq, Repr

/-! ## Four parts -/

/-- Value of a numeral in a base of at most sixteen. -/
def numeral? (base : Nat) (digits : List Char) : Option Nat :=
  digits.foldl (fun value c => do
    let value ← value
    let digit ← hexDigit? c
    if digit < base then some (value * base + digit) else none) (some 0)

/-- Value of a part: hexadecimal behind `0x`, octal behind `0`, else decimal. -/
def partValue? : List Char → Option Nat
  | [] => none
  | '0' :: 'x' :: digits => numeral? 16 digits
  | '0' :: 'X' :: digits => numeral? 16 digits
  | ['0'] => some 0
  | '0' :: digits => numeral? 8 digits
  | digits => numeral? 10 digits

/-- Whether the last part of a name is a number, so that the name is meant as one. -/
def endsInNumber (name : List Char) : Bool :=
  let parts := (labels name).reverse
  let last :=
    match parts with
    | [] :: next :: _ => some next
    | [[]] => none
    | part :: _ => some part
    | [] => none
  match last with
  | none => false
  | some part =>
      (!part.isEmpty && part.all fun c => (digit? c).isSome) || (partValue? part).isSome

/-- Put the leading parts and the last one, which fills the rest, together. -/
def joinParts : (weight : Nat) → List Nat → Option Nat
  | _, [] => none
  | weight, [last] => if last < weight then some last else none
  | weight, part :: rest => do
      let later ← joinParts (weight / 256) rest
      if part ≤ 255 then some (part * (weight / 256) + later) else none

/-- The number that a name means. -/
def v4? (name : List Char) : Option Nat := do
  let parts := labels name
  let parts := if parts.getLast? = some [] then parts.dropLast else parts
  if 4 < parts.length then none
  let values ← parts.mapM partValue?
  if values.any (0x100000000 ≤ ·) then none
  joinParts 0x100000000 values

/-! ## Eight groups -/

/-- Up to four hexadecimal digits at the head of a text. -/
def groupDigits : (count : Nat) → (value : Nat) → List Char → Nat × Nat × List Char
  | 0, value, rest => (0, value, rest)
  | _, value, [] => (0, value, [])
  | count + 1, value, c :: rest =>
      match hexDigit? c with
      | none => (0, value, c :: rest)
      | some digit =>
          let (length, value, rest) := groupDigits count (value * 16 + digit) rest
          (length + 1, value, rest)

/-- Decimal parts of up to 255 without zeros in front, separated by dots. -/
def dottedParts : (count : Nat) → List Char → Option (List Nat)
  | 0, _ => none
  | count + 1, text => do
      let digits := text.takeWhile fun c => (digit? c).isSome
      let rest := text.drop digits.length
      let value ← numeral? 10 digits
      if digits.isEmpty ∨ 255 < value ∨ (digits.length ≠ 1 ∧ digits.head? = some '0') then none
      match rest with
      | [] => some [value]
      | '.' :: rest => return value :: (← dottedParts count rest)
      | _ => none

/-- Read groups. The result lists them, with the place of the run that was left out. -/
def readGroups : (fuel : Nat) → (groups : List Nat) → (gap : Option Nat) → List Char →
    Option (List Nat × Option Nat)
  | 0, _, _, _ => none
  | _, groups, gap, [] => some (groups, gap)
  | fuel + 1, groups, gap, text =>
      if 8 ≤ groups.length then none
      else
        match text with
        | ':' :: rest =>
            match gap with
            | some _ => none
            | none => readGroups fuel groups (some groups.length) rest
        | _ =>
            let (length, value, rest) := groupDigits 4 0 text
            match rest with
            | '.' :: _ =>
                if length = 0 ∨ 6 < groups.length then none
                else
                  match dottedParts 4 text with
                  | some [a, b, c, d] => some (groups ++ [a * 256 + b, c * 256 + d], gap)
                  | _ => none
            | ':' :: next :: rest =>
                if length = 0 then none
                else readGroups fuel (groups ++ [value]) gap (next :: rest)
            | [] => if length = 0 then none else some (groups ++ [value], gap)
            | _ => none

/-- The groups that a text means. -/
def v6? (text : List Char) : Option (List Nat) := do
  let (groups, gap) ←
    match text with
    | ':' :: ':' :: rest => readGroups 40 [] (some 0) rest
    | ':' :: _ => none
    | [] => none
    | _ => readGroups 40 [] none text
  match gap with
  | none => if groups.length = 8 then some groups else none
  | some place =>
      if groups.length ≤ 7 then
        some (groups.take place ++ List.replicate (8 - groups.length) 0 ++ groups.drop place)
      else none

/-- Length of the run of zeros at the head. -/
def zeroRun (groups : List Nat) : Nat :=
  (groups.takeWhile (· == 0)).length

/-- Start and length of the longest run of at least two zeros, the first of equals. -/
def longestRun (groups : List Nat) : Option (Nat × Nat) :=
  (List.range groups.length).foldl (fun best place =>
    let length := zeroRun (groups.drop place)
    let longest := (best.map Prod.snd).getD 1
    if longest < length then some (place, length) else best) none

/-- Groups in hexadecimal with colons between them. -/
def groupsText (groups : List Nat) : String :=
  let digits (group : Nat) : String :=
    let text := (hexChars 4 group).dropWhile (· == '0')
    if text.isEmpty then "0" else String.ofList text
  String.intercalate ":" (groups.map digits)

/-- A host in its written form. -/
def Host.render : Host → String
  | .name text => text
  | .v4 address =>
      String.intercalate "." ([0x1000000, 0x10000, 0x100, 1].map fun weight =>
        decimal (address / weight % 256))
  | .v6 groups =>
      match longestRun groups with
      | none => "[" ++ groupsText groups ++ "]"
      | some (place, length) =>
          "[" ++ groupsText (groups.take place) ++ "::" ++
            groupsText (groups.drop (place + length)) ++ "]"

/-! ## Reading hosts -/

/-- A host between brackets, if the text is one. -/
def bracketed? (text : List Char) : Option (Except UrlFault Host) :=
  match text with
  | '[' :: rest =>
      some <|
        if rest.getLast? = some ']' then
          match v6? rest.dropLast with
          | some groups => .ok (.v6 groups)
          | none => .error .invalidV6
        else .error .invalidV6
  | _ => none

/-- The host of a scheme with a default port. -/
def readHost (text : List Char) : Except UrlFault Host :=
  match bracketed? text with
  | some result => result
  | none =>
      match asciiName (decode text) with
      | none => .error .invalidName
      | some [] => .error .emptyHost
      | some name =>
          if endsInNumber name then
            match v4? name with
            | some address => .ok (.v4 address)
            | none => .error .invalidV4
          else .ok (.name (String.ofList name))

/-- Characters that the host of any other scheme cannot hold. -/
def opaqueForbidden : List Char :=
  [Char.ofNat 0, '\t', '\n', '\r', ' ', '#', '/', ':', '<', '>', '?', '@', '[', '\\', ']', '^', '|']

/-- The host of any other scheme. -/
def readOtherHost (text : List Char) : Except UrlFault Host :=
  match bracketed? text with
  | some result => result
  | none =>
      if text.any fun c => opaqueForbidden.contains c then .error .invalidHostCharacter
      else .ok (.name (String.ofList (encode [] text)))

end Scribe.Url
