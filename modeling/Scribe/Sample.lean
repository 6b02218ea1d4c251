import Scribe.Hash.Sip
import Scribe.Text.Numeral

/-!
# Samples

Job ids, stream names and group names that follow from a seed, so that runs which share
a server keep apart and can be repeated. A seed may be taken from a name.
-/

namespace Scribe

open Scribe.Text

/-- A source of names. -/
structure Sample where
  seed : UInt64
deriving DecidableEq, Repr

namespace Sample

/-- The sample of a name. -/
def ofName (name : String) : Sample :=
  ⟨Hash.ofText name⟩

/-- The bytes of a word, the lowest first. -/
def wordBytes (word : UInt64) : List UInt8 :=
  (List.range 8).map fun index => (word >>> UInt64.ofNat (8 * index)).toUInt8

/-- Sixteen bytes in groups of four, two, two, two and six. -/
def grouped (bytes : List UInt8) : String :=
  let digits := bytes.flatMap fun byte => hexChars 2 byte.toNat
  let piece (start length : Nat) : String := String.ofList ((digits.drop start).take length)
  String.intercalate "-" [piece 0 8, piece 8 4, piece 12 4, piece 16 4, piece 20 12]

/-- The id of a job: the seed, then the index. -/
def jobId (sample : Sample) (index : UInt64) : String :=
  grouped (wordBytes sample.seed ++ wordBytes index)

/-- The name of a stream. -/
def stream (sample : Sample) (base : String) : String :=
  base ++ ".test-" ++ decimal sample.seed.toNat

/-- The name of a group of consumers. -/
def group (sample : Sample) (base : String) : String :=
  base ++ "-" ++ decimal sample.seed.toNat

end Sample

end Scribe
