import Scribe.Audio.Program
import Scribe.Audio.Wave
import Scribe.Failure.Basic
import Scribe.Failure.System

/-!
# Conversion

A converter is a program that makes a mono wave of 16000 samples a second out of any
recording. How it ended and the wave it left decide what comes of a conversion.
-/

namespace Scribe.Audio

/-- A file as it is found: its bytes, or the number of the error. -/
abbrev FileContent := Except Int ByteArray

namespace Converter

/-- What the converter is called with. -/
def arguments (input output : String) : List String :=
  ["-y", "-i", input, "-ac", "1", "-ar", "16000", "-vn", "-sn", output]

/-- The failure of a wave that cannot be read. -/
def unreadable (message : String) : Failure :=
  .of .unsupportedFormat ("unreadable WAV: " ++ message)

/-- The length in seconds of a wave file. -/
def secondsOf (file : FileContent) : Except Failure Float :=
  match file with
  | .error error => .error (unreadable (systemError error))
  | .ok bytes =>
      match Wave.ofBytes bytes with
      | .error flaw => .error (unreadable flaw.message)
      | .ok wave => .ok wave.seconds

/-- The length in seconds of what a converter made. -/
def outcome (program : String) (ended : ProgramEnd) (output : FileContent) :
    Except Failure Float :=
  match ended with
  | .notStarted error =>
      .error (.of .internalError ("failed to run " ++ program ++ ": " ++ systemError error))
  | .exited status =>
      if status = 0 then secondsOf output
      else .error (.of .unsupportedFormat "ffmpeg conversion failed")

end Converter

end Scribe.Audio
