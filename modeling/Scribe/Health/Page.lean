import Scribe.Health.Readiness
import Scribe.Json.Printer

/-!
# Health pages

What a worker shows of itself: whether it is alive, whether it is ready, and its metrics.
A page is read with GET or HEAD. HEAD gets everything but the body.
-/

namespace Scribe.Health

/-- An answer to a reader. -/
structure Page where
  status : Nat
  contentType : Option String := none
  body : String := ""
deriving DecidableEq, Repr

/-- What a path shows. -/
inductive Content
  | liveness
  | readiness
  | metrics
deriving DecidableEq, Repr

/-- Which pages there are. -/
inductive Site
  | full
  | metricsOnly
deriving DecidableEq, Repr

/-- What a site shows under a path. -/
def Site.content? (site : Site) (path : String) : Option Content :=
  match path, site with
  | "/metrics", _ => some .metrics
  | "/healthz", .full => some .liveness
  | "/health", .full => some .readiness
  | "/ready", .full => some .readiness
  | "/readyz", .full => some .readiness
  | _, _ => none

/-- The path of a target, without the address before it and the query behind it. -/
def pathOf (target : String) : String :=
  let chars := target.toList.takeWhile fun c => c != '?' && c != '#'
  if chars.head? = some '/' then String.ofList chars
  else
    let address := (chars.dropWhile (· != '/')).drop 2
    String.ofList (address.dropWhile (· != '/'))

/-- The report on readiness; a worker that answers at all may be reported as up. -/
def report (readiness : Readiness) (alive : Bool) : Json :=
  .object [("status", .string (if readiness.isReady || alive then "UP" else "DOWN")),
    ("engine", .string readiness.engine), ("model_ready", .bool readiness.isReady),
    ("lifecycle", .string readiness.lifecycle.name)]

/-- A report as a page. -/
def reportPage (status : Nat) (report : Json) : Page :=
  ⟨status, some "application/json", report.render⟩

namespace Content

/-- The page of a content; metrics may not be recorded. -/
def page (readiness : Readiness) (exposition : Option String) : Content → Page
  | .liveness => reportPage 200 (report readiness true)
  | .readiness => reportPage (if readiness.isReady then 200 else 503) (report readiness false)
  | .metrics =>
      match exposition with
      | some text => ⟨200, some "text/plain; version=0.0.4; charset=utf-8", text⟩
      | none => ⟨503, some "text/plain; charset=utf-8",
          "Metrics not initialized. Call init_metrics() at startup."⟩

end Content

/-- The answer of a site to a request. -/
def Site.answer (site : Site) (readiness : Readiness) (exposition : Option String)
    (method target : String) : Page :=
  match site.content? (pathOf target) with
  | none => ⟨404, none, ""⟩
  | some content =>
      let page := content.page readiness exposition
      if method = "GET" then page
      else if method = "HEAD" then { page with body := "" }
      else ⟨405, none, ""⟩

end Scribe.Health
