/-!
# A keyed hash of 64 bits

Four words are mixed by additions, rotations and exclusive or. The input is taken in
words of eight bytes, the lowest byte first; the last word is filled with zeros and ends
in the length. Each word is mixed in with one round, and three rounds finish.
-/

namespace Scribe.Hash

/-- The words that are mixed. -/
structure Sip where
  first : UInt64
  second : UInt64
  third : UInt64
  fourth : UInt64
deriving DecidableEq, Repr

/-- A word turned left by a number of bits between one and sixty-three. -/
def turn (word : UInt64) (count : UInt64) : UInt64 :=
  (word <<< count) ||| (word >>> (64 - count))

/-- The word of up to eight bytes, the lowest first. -/
def wordOf (bytes : List UInt8) : UInt64 :=
  bytes.foldr (fun byte word => (word <<< 8) ||| byte.toUInt64) 0

namespace Sip

/-- The state for a key of zeros. -/
def unkeyed : Sip where
  first := 0x736f6d6570736575
  second := 0x646f72616e646f6d
  third := 0x6c7967656e657261
  fourth := 0x7465646279746573

/-- One round of mixing. -/
def round (state : Sip) : Sip :=
  let first := state.first + state.second
  let second := turn state.second 13 ^^^ first
  let first := turn first 32
  let third := state.third + state.fourth
  let fourth := turn state.fourth 16 ^^^ third
  let first := first + fourth
  let fourth := turn fourth 21 ^^^ first
  let third := third + second
  let second := turn second 17 ^^^ third
  ⟨first, second, turn third 32, fourth⟩

/-- Mix a word in. -/
def absorb (state : Sip) (word : UInt64) : Sip :=
  let state := { state with fourth := state.fourth ^^^ word }.round
  { state with first := state.first ^^^ word }

/-- The hash of a state. -/
def finish (state : Sip) : UInt64 :=
  let state := { state with third := state.third ^^^ 0xff }.round.round.round
  state.first ^^^ state.second ^^^ state.third ^^^ state.fourth

/-- Mix in all words of the bytes; the last one ends in the length of the whole. -/
def absorbAll (length : UInt64) : List UInt8 → Sip → Sip
  | a :: b :: c :: d :: e :: f :: g :: h :: rest, state =>
      absorbAll length rest (state.absorb (wordOf [a, b, c, d, e, f, g, h]))
  | rest, state => state.absorb ((length <<< 56) ||| wordOf rest)

end Sip

/-- The hash of bytes. -/
def ofBytes (bytes : List UInt8) : UInt64 :=
  (Sip.absorbAll (UInt64.ofNat bytes.length) bytes Sip.unkeyed).finish

/-- The byte that ends a text, so that no text is the beginning of another. -/
def textEnd : UInt8 := 0xff

/-- The hash of a text. -/
def ofText (text : String) : UInt64 :=
  ofBytes (text.toUTF8.toList ++ [textEnd])

end Scribe.Hash
