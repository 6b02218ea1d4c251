import Scribe.Files
import Scribe.Text.Numeral

/-!
# Scratch files

The files of a job are named after its id, which comes from outside: of its first
characters, letters, digits, hyphens and underscores stay and every other character
becomes an underscore. A drawn number keeps the files of two jobs apart.
-/

namespace Scribe.Audio

open Scribe.Text

/-- Characters that a file name may keep. -/
def isSafe (c : Char) : Bool :=
  c.isAlphanum || c == '-' || c == '_'

/-- At most this many characters of a job id are used. -/
def stemLimit : Nat := 64

/-- The part of a file name that comes from a job id. -/
def stem (jobId : String) : List Char :=
  let kept := (jobId.toList.take stemLimit).map fun c => if isSafe c then c else '_'
  if kept.isEmpty then ['j', 'o', 'b'] else kept

/-- The files of one job: what is downloaded, and the wave made of it. -/
structure Scratch where
  directory : String
  input : String
  wave : String
deriving DecidableEq, Repr

namespace Scratch

/-- The name that both files share, for a job id and a drawn number of 128 bits. -/
def sharedName (jobId : String) (drawn : Nat) : String :=
  String.ofList (stem jobId ++ '-' :: hexChars 32 drawn)

/-- The files of a job in a directory. -/
def of (directory jobId : String) (drawn : Nat) : Scratch :=
  { directory
    input := sharedName jobId drawn ++ ".input"
    wave := sharedName jobId drawn ++ ".wav" }

/-- A name inside the directory of the files. -/
def path (scratch : Scratch) (name : String) : String :=
  Path.join scratch.directory name

/-- The paths of both files. -/
def paths (scratch : Scratch) : List String :=
  [scratch.path scratch.input, scratch.path scratch.wave]

/-- A disk without the files; one that is not there does not matter. -/
def removeFrom (scratch : Scratch) (files : Files) : Files :=
  scratch.paths.foldl (fun files path => files.remove (Path.ofText path)) files

end Scratch

end Scribe.Audio
