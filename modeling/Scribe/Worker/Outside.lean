import Scribe.Stream.Script
import Scribe.Work.Site
import Scribe.Worker.Startup

/-!
# The outside of a whole worker

Ports, a server for engines and audio, a stream server and a disk, as a worker meets them
when it starts.
-/

namespace Scribe.Worker

open Scribe.Work

/-- What a worker meets. -/
structure Outside where
  site : Site
  stream : Stream.Server
  /-- Ports that others have opened. -/
  taken : List Nat := []

namespace Outside

/-- The number of the error of a port that is open already. -/
def portTaken : Int := 98

/-- Open a port, unless it is open; number zero stands for any that is free. -/
def openPort (outside : Outside) (port : Nat) : Except Int Unit × Outside :=
  if port ≠ 0 ∧ outside.taken.contains port then (.error portTaken, outside)
  else (.ok (), { outside with taken := port :: outside.taken })

/-- Answer what is asked at the start, for engines behind some servers. -/
def answer (servers : EngineServers) (question : StartQuestion) (outside : Outside) :
    question.Answer × Outside :=
  match question with
  | .openPort port => outside.openPort port
  | .createEngine kind =>
      let (engine, site) := outside.site.createEngine servers kind
      (engine, { outside with site })
  | .stream question =>
      let (answer, stream) := Stream.Server.answer question outside.stream
      (answer, { outside with stream })
  | .makeDirectory path =>
      match outside.site.files.makeDirectory (Path.ofText path) with
      | .error error => (.error error, outside)
      | .ok files => (.ok (), { outside with site := { outside.site with files } })

/-- The servers that an environment names. -/
def serversIn (environment : Config.Environment) : EngineServers :=
  match Config.Settings.load environment with
  | .ok settings => serversOf settings
  | .error _ => { conformer := "", whisper := "" }

/-- Start a worker. -/
def start (outside : Outside) (environment : Config.Environment) (drawn : String) :
    (Except StartFault Started × Health.Readiness) × Outside :=
  (Worker.start environment drawn).run (answer (serversIn environment)) outside

end Outside

end Scribe.Worker
