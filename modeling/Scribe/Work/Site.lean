import Scribe.Engine.Remote
import Scribe.Files
import Scribe.Http.Download
import Scribe.Http.Server

/-!
# The outside of a worker

A server and a disk. Downloads and engines ask the server, and downloads end on the disk.
-/

namespace Scribe.Work

open Scribe.Http

/-- A server and a disk, and the time that was waited. -/
structure Site where
  server : Server
  files : Files := {}
  waited : Time.Span := ⟨0⟩

namespace Site

/-- Make a request within a time. -/
def send (site : Site) (timeout : Option Time.Span) (wanted : Except Fault Http.Request) :
    Except Fault Http.Reply × Site :=
  let (reply, server) := site.server.send timeout wanted
  (reply, { site with server })

/-- The disk after a change that may fail. -/
def change (site : Site) (changed : Except FileError Files) : Except Failure Unit × Site :=
  match changed with
  | .error error => (.error error.failure, site)
  | .ok files => (.ok (), { site with files })

/-! ## Downloads -/

/-- Answer what a download asks for. -/
def answer (address : String) (path : Path) (timeout : Time.Span) (question : Download.Question)
    (site : Site) : question.Answer × Site :=
  match question with
  | .makeDirectory => site.change (site.files.makeDirectory path.dropLast)
  | .get => site.send (some timeout) (Http.Request.make .get address [] .empty)
  | .create => site.change (site.files.write path ByteArray.empty)
  | .write chunk =>
      site.change (site.files.write path ((site.files.content? path).getD ByteArray.empty ++ chunk))
  | .flush => (.ok (), site)
  | .sleep span => ((), { site with waited := ⟨site.waited.nanos + span.nanos⟩ })

/-- Download an address to a path. -/
def download (site : Site) (plan : Download) (address : String) (path : Path)
    (timeout : Time.Span) : Except Failure Downloaded × Site :=
  plan.talk.run (answer address path timeout) site

/-! ## Engines -/

/-- The engine of a kind, if it is healthy. -/
def createEngine (servers : EngineServers) (kind : EngineKind) (site : Site) :
    Except Failure Engine × Site :=
  let (reply, site) := site.send (some servers.checkTimeout) (servers.healthRequest kind)
  ((kind.health reply).map fun _ => servers.engine kind, site)

/-- A selector whose engines are healthy. -/
def createSelector (servers : EngineServers) (requested : EngineKind) (options : SelectorOptions)
    (site : Site) : Except Failure Selector × Site :=
  (Selector.create requested options).run (createEngine servers) site

/-- Ask an engine for the transcript of a wave on the disk. -/
def transcribe (site : Site) (servers : EngineServers) (kind : EngineKind) (path : Path)
    (language : String) (timeout : Option Time.Span) : Except Failure Transcript × Site :=
  match site.files.read path with
  | .error error => (.error error.failure, site)
  | .ok wave =>
      let (reply, site) :=
        site.send timeout (servers.transcriptionRequest kind language wave)
      (kind.transcript language reply, site)

end Site

end Scribe.Work
