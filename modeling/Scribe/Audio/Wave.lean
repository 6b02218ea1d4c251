/-!
# Wave headers

A wave file is a list of chunks. The format chunk says how samples are laid out, and the
data chunk that follows it says how many bytes of samples there are. Other chunks are
skipped. Only the header is read: the samples themselves may be missing.
-/

namespace Scribe.Audio

/-- Why a header cannot be read. -/
inductive WaveFlaw
  | truncated
  | unsupported
  | noRiffTag
  | noWaveTag
  | noFormat
  | formatTooShort
  | formatSize
  | noChannels
  | tooManyBits
  | inconsistent
  | partBytes
  | noBits
  | integerBits
  | floatBits
  | plainExtension
  | wideExtension
  | partSamples
  | partFrames
deriving DecidableEq, Repr

namespace WaveFlaw

/-- What is wrong with a header that breaks the rules of the format. -/
def rule? : WaveFlaw → Option String
  | .truncated | .unsupported => none
  | .noRiffTag => some "no RIFF tag found"
  | .noWaveTag => some "no WAVE tag found"
  | .noFormat => some "missing fmt chunk"
  | .formatTooShort => some "invalid fmt chunk size"
  | .formatSize => some "unexpected fmt chunk size"
  | .noChannels => some "file contains zero channels"
  | .tooManyBits => some "sample bits exceeds size of sample"
  | .inconsistent => some "inconsistent fmt chunk"
  | .partBytes => some "bits per sample is not a multiple of 8"
  | .noBits => some "bits per sample is 0"
  | .integerBits => some "bits per sample is not 8 or 16"
  | .floatBits => some "bits per sample is not 32"
  | .plainExtension => some "unexpected WAVEFORMATEX size"
  | .wideExtension => some "unexpected WAVEFORMATEXTENSIBLE size"
  | .partSamples => some "data chunk length is not a multiple of sample size"
  | .partFrames => some "invalid data chunk length"

/-- The wording of a flaw. -/
def message (flaw : WaveFlaw) : String :=
  match flaw.rule? with
  | some rule => "Ill-formed WAVE file: " ++ rule
  | none =>
      if flaw = .truncated then "Failed to read enough bytes."
      else "The wave format of the file is not supported."

end WaveFlaw

/-- How samples are laid out. -/
structure WaveFormat where
  channels : Nat
  rate : Nat
  bytesPerSample : Nat
deriving DecidableEq, Repr

/-- A wave: its layout, and the number of samples of all channels together. -/
structure Wave where
  format : WaveFormat
  samples : Nat
deriving DecidableEq, Repr

/-- A reader of a header, which goes through the bytes from the front. -/
abbrev HeaderReader := StateT (List UInt8) (Except WaveFlaw)

namespace HeaderReader

/-- The next bytes. -/
def take (count : Nat) : HeaderReader (List UInt8) := fun bytes =>
  let front := bytes.take count
  if front.length = count then .ok (front, bytes.drop count) else .error .truncated

/-- A number of some bytes, the lowest first. -/
def number (count : Nat) : HeaderReader Nat := do
  return (← take count).foldr (fun byte value => value * 256 + byte.toNat) 0

/-- Refuse the header unless a condition holds. -/
def check (condition : Bool) (flaw : WaveFlaw) : HeaderReader Unit :=
  if condition then return () else throw flaw

/-- A tag of four characters. -/
def tag : HeaderReader String := do
  return String.ofList ((← take 4).map fun byte => Char.ofNat byte.toNat)

end HeaderReader

namespace WaveFormat

open HeaderReader

/-- Tags of the layouts of samples. -/
def integerTag : Nat := 1

@[inherit_doc integerTag]
def floatTag : Nat := 3

@[inherit_doc integerTag]
def wideTag : Nat := 0xfffe

/-- The end of the names of layouts in a wide format chunk, after the tag. -/
def wideName : List UInt8 :=
  [0x00, 0x00, 0x00, 0x00, 0x10, 0x00, 0x80, 0x00, 0x00, 0xaa, 0x00, 0x38, 0x9b, 0x71]

/-- The rest of a format chunk for whole numbers. A longer chunk is only read over. -/
def readInteger (length bits : Nat) : HeaderReader Unit := do
  check (length = 16 ∨ length = 18 ∨ length = 40) .formatSize
  if length = 16 then return ()
  let _ ← take 2
  check (bits = 8 ∨ bits = 16 ∨ bits = 24) .integerBits
  if length = 40 then
    let _ ← take 22

/-- The rest of a format chunk for doubles of 32 bits. -/
def readFloat (length bits : Nat) : HeaderReader Unit := do
  check (length = 16 ∨ length = 18) .formatSize
  if length = 18 then
    check ((← number 2) = 0) .plainExtension
  check (bits = 32) .floatBits

/-- The rest of a wide format chunk, which names the layout once more. -/
def readWide (length : Nat) : HeaderReader Unit := do
  check (40 ≤ length) .formatSize
  check ((← number 2) = 22) .wideExtension
  let _ ← take 6
  let layout ← number 2
  let name ← take 14
  check ((layout = integerTag ∨ layout = floatTag) ∧ name = wideName) .unsupported

/-- A format chunk of a length. -/
def read (length : Nat) : HeaderReader WaveFormat := do
  check (16 ≤ length) .formatTooShort
  let layout ← number 2
  let channels ← number 2
  let rate ← number 4
  let bytesPerSecond ← number 4
  let frame ← number 2
  let bits ← number 2
  check (channels ≠ 0) .noChannels
  let bytesPerSample := frame / channels
  check (bits ≤ bytesPerSample * 8 ∧ bytesPerSample * 8 < 0x10000) .tooManyBits
  check (bytesPerSecond = frame * rate) .inconsistent
  check (bits % 8 = 0) .partBytes
  check (bits ≠ 0) .noBits
  if layout = integerTag then readInteger length bits
  else if layout = floatTag then readFloat length bits
  else if layout = wideTag then readWide length
  else throw .unsupported
  return ⟨channels, rate, bytesPerSample⟩

end WaveFormat

namespace Wave

open HeaderReader

/-- The chunks up to the data, given the format that was read last. The fuel is the
number of bytes. -/
def readChunks : (fuel : Nat) → Option WaveFormat → HeaderReader (WaveFormat × Nat)
  | 0, _ => throw .truncated
  | fuel + 1, format => do
      let kind ← tag
      let length ← number 4
      match kind, format with
      | "fmt ", _ => do
          let format ← WaveFormat.read length
          readChunks fuel (some format)
      | "fact", _ => do
          let _ ← take 4
          readChunks fuel format
      | "data", some format => return (format, length)
      | "data", none => throw .noFormat
      | _, _ => do
          let _ ← take length
          readChunks fuel format

/-- The wave with a layout and a number of bytes. -/
def ofLength (format : WaveFormat) (length : Nat) : Except WaveFlaw Wave :=
  let samples := length / format.bytesPerSample
  if samples * format.bytesPerSample ≠ length then .error .partSamples
  else if samples % format.channels ≠ 0 then .error .partFrames
  else .ok ⟨format, samples⟩

/-- Read a header. -/
def header : HeaderReader Wave := do
  check ((← tag) = "RIFF") .noRiffTag
  let _ ← take 4
  check ((← tag) = "WAVE") .noWaveTag
  let (format, length) ← readChunks (← get).length none
  match ofLength format length with
  | .ok wave => return wave
  | .error flaw => throw flaw

/-- The wave that a file begins with. -/
def ofBytes (bytes : ByteArray) : Except WaveFlaw Wave :=
  (header bytes.toList).map Prod.fst

/-- The number of samples of one channel. -/
def frames (wave : Wave) : Nat :=
  wave.samples / wave.format.channels

/-- The length in seconds; a wave without a rate has none. -/
def seconds (wave : Wave) : Float :=
  if wave.format.rate = 0 then 0.0
  else (UInt64.ofNat wave.frames).toFloat / (UInt64.ofNat wave.format.rate).toFloat

end Wave

end Scribe.Audio
