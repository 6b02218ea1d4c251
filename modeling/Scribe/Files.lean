import Scribe.Failure.Chain
import Scribe.Failure.System

/-!
# Files

A tree of directories with files in it. A path is followed name by name: two dots leave a
directory, and a file on the way ends it. What cannot be done is reported as the operating
system does.
-/

namespace Scribe

/-- Names on the way from the root. -/
abbrev Path := List String

/-- The names of a path, without those that stay where they are. -/
def Path.ofText (text : String) : Path :=
  ((text.toList.splitOn '/').map String.ofList).filter fun name => name != "" && name != "."

/-- The text of a path to a name in a directory: a slash separates them, unless the directory is
empty or ends with one; a name that begins with a slash is a path of its own. -/
def Path.join (directory name : String) : String :=
  if name.toList.head? = some '/' then name
  else if directory.toList.getLast?.all (· == '/') then directory ++ name
  else directory ++ "/" ++ name

/-- Why something cannot be done with a file. -/
inductive FileError
  | system (number : Int)
  | nulInName
deriving DecidableEq, Repr

namespace FileError

/-- There is nothing of that name. -/
def missing : FileError := .system 2

/-- There is something of that name. -/
def present : FileError := .system 17

/-- A file stands where a directory is needed. -/
def notDirectory : FileError := .system 20

/-- A directory stands where a file is needed. -/
def isDirectory : FileError := .system 21

/-- A name is too long. -/
def longName : FileError := .system 36

/-- The wording of an error. -/
def message : FileError → String
  | .system number => systemError number
  | .nulInName => "file name contained an unexpected NUL byte"

/-- The failure that an error amounts to. -/
def failure (error : FileError) : Failure :=
  (ErrorChain.system error.message).convert

end FileError

/-- Directories and files. The root is always there. -/
structure Files where
  directories : List Path := []
  contents : List (Path × ByteArray) := []

namespace Files

/-- A name has at most this many bytes. -/
def nameLimit : Nat := 255

/-- Whether a path leads to a directory. -/
def isDirectory (files : Files) (path : Path) : Bool :=
  path.isEmpty || files.directories.contains path

/-- The bytes of the file at a path. -/
def content? (files : Files) (path : Path) : Option ByteArray :=
  (files.contents.find? fun entry => entry.1 == path).map Prod.snd

/-- Follow names from a directory and make the directories that are missing. -/
def makeFrom (files : Files) (here : Path) : Path → Except FileError Files
  | [] => .ok files
  | name :: rest =>
      if name = ".." then files.makeFrom here.dropLast rest
      else if name.any (· == '\x00') then .error .nulInName
      else if name.utf8ByteSize > nameLimit then .error .longName
      else if (files.content? (here ++ [name])).isSome then
        .error (if rest.isEmpty then .present else .notDirectory)
      else if files.isDirectory (here ++ [name]) then files.makeFrom (here ++ [name]) rest
      else
        let files := { files with directories := files.directories ++ [here ++ [name]] }
        files.makeFrom (here ++ [name]) rest

/-- Make a directory with all above it. -/
def makeDirectory (files : Files) (path : Path) : Except FileError Files :=
  files.makeFrom [] path

/-- Put a file at a path, over one that is there. -/
def write (files : Files) (path : Path) (content : ByteArray) : Except FileError Files :=
  if files.isDirectory path then .error .isDirectory
  else if (files.content? path.dropLast).isSome then .error .notDirectory
  else if !files.isDirectory path.dropLast then .error .missing
  else
    let others := files.contents.filter fun entry => entry.1 != path
    .ok { files with contents := others ++ [(path, content)] }

/-- Read a file. -/
def read (files : Files) (path : Path) : Except FileError ByteArray :=
  if files.isDirectory path then .error .isDirectory
  else
    match files.content? path with
    | some content => .ok content
    | none => .error .missing

/-- The files without one. -/
def remove (files : Files) (path : Path) : Files :=
  { files with contents := files.contents.filter fun entry => entry.1 != path }

/-- How many files a directory holds. -/
def count (files : Files) (path : Path) : Nat :=
  (files.contents.filter fun entry => entry.1.dropLast == path).length

end Files

end Scribe
