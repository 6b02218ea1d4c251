import Scribe.Decimal.Shortest
import Scribe.Text.Numeral

/-!
# Layouts of decimal numbers

A double is written with its shortest digits. A layout decides the rest: which
leading exponents are written out by position, and whether a whole number
carries a point. Two layouts are in use: that of data formats, which turns to an
exponent for very large and very small numbers, and that of running text, which
always writes out every position.
-/

namespace Scribe.Decimal

open Scribe.Text

/-- Where a double's digits are written by position, and how a whole one ends. -/
structure Layout where
  positional : Int → Bool
  pointed : Bool

/-- From 1e-5 up to just below 1e16 by position, always with a point. -/
def Layout.data : Layout where
  positional exponent := -5 ≤ exponent && exponent < 16
  pointed := true

/-- Always by position, whole numbers without a point. -/
def Layout.plain : Layout where
  positional _ := true
  pointed := false

/-- Put the point after the first `whole` digits, filling with zeros. -/
def placePoint (pointed : Bool) (digits : List Char) (whole : Int) : List Char :=
  if whole ≤ 0 then
    "0.".toList ++ List.replicate (-whole).toNat '0' ++ digits
  else if digits.length ≤ whole.toNat then
    digits ++ List.replicate (whole.toNat - digits.length) '0' ++
      (if pointed then ".0".toList else [])
  else
    digits.take whole.toNat ++ '.' :: digits.drop whole.toNat

/-- Digits with a point after the first, then the exponent with its sign. -/
def withExponent (digits : List Char) (exponent : Int) : List Char :=
  let mantissa :=
    match digits with
    | [] => []
    | [digit] => [digit]
    | digit :: rest => digit :: '.' :: rest
  mantissa ++ ['e', if exponent < 0 then '-' else '+'] ++ decimalChars exponent.natAbs

/-- Write the magnitude of a finite double given by its bits. -/
def Layout.magnitude (layout : Layout) (bits : Nat) : List Char :=
  if bits = 0 then (if layout.pointed then "0.0" else "0").toList
  else
    let number := shortest bits
    let digits := decimalChars number.digits
    let leading := number.exponent + digits.length - 1
    if layout.positional leading then placePoint layout.pointed digits (leading + 1)
    else withExponent digits leading

/-- Write a finite double. -/
def Layout.finite (layout : Layout) (value : Float) : String :=
  let bits := value.toBits.toNat
  let sign := if bits < 0x8000000000000000 then [] else ['-']
  String.ofList (sign ++ layout.magnitude (bits % 0x8000000000000000))

/-- Whether a double is neither infinite nor a NaN. -/
def isFinite (value : Float) : Bool :=
  value.toBits.toNat / 0x10000000000000 % 0x800 < 0x7ff

/-- A double in running text. -/
def plain (value : Float) : String :=
  if isFinite value then Layout.plain.finite value
  else if value.isNaN then "NaN"
  else if value < 0 then "-inf"
  else "inf"

end Scribe.Decimal
