/-!
# Programs

A program ends with a status, or it is not started at all: there is nothing of its name, or
what there is cannot be run. A name with a slash is a path; any other is looked up where
the programs of the system are.
-/

namespace Scribe.Audio

/-- How a program ended. -/
inductive ProgramEnd
  | notStarted (error : Int)
  | exited (status : Nat)
deriving DecidableEq, Repr

namespace ProgramEnd

/-- Programs of every system that end well whatever they are called with. -/
def willing : List String := ["true", "echo"]

/-- Programs of every system that end badly when they are called as a converter. -/
def unwilling : List String :=
  ["false", "cat", "ls", "cp", "mv", "rm", "sh", "bash", "test", "sleep"]

/-- Paths of every system at which there is no program. -/
def otherPaths : List String :=
  ["/", ".", "..", "/bin", "/dev", "/dev/null", "/dev/zero", "/etc", "/etc/hostname", "/etc/hosts",
    "/etc/passwd", "/home", "/lib", "/proc", "/root", "/tmp", "/usr", "/usr/bin", "/var"]

/-- There is nothing of a name. -/
def missing : ProgramEnd := .notStarted 2

/-- Something cannot be run. -/
def forbidden : ProgramEnd := .notStarted 13

/-- How the program of a name ends when it is called as a converter on a plain system.  A
conversion takes the end of its program as given, so nothing rests on this table. -/
def ofName (name : String) : ProgramEnd :=
  let bare := ((name.dropPrefix "/usr").dropPrefix "/bin/").toString
  if willing.contains bare then .exited 0
  else if unwilling.contains bare then .exited 1
  else if otherPaths.contains name then forbidden
  else missing

end ProgramEnd

end Scribe.Audio
