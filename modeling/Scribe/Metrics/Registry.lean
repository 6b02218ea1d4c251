import Scribe.Decimal.Layout
import Scribe.Metrics.Mark
import Scribe.Text.Numeral

/-!
# The metrics registry

Each series of samples has a name and labels. Counters go up by one, gauges take the
last value. A sample is shown as one line; a series that was never touched has none.
-/

namespace Scribe

open Scribe.Text

namespace Metrics

/-- A name with labels. -/
structure Series where
  name : String
  labels : List (String × String)
deriving DecidableEq, Repr

/-- The present value of a series. -/
inductive Sample
  | counter (count : Nat)
  | gauge (value : Nat)
deriving DecidableEq, Repr

/-- The series that a mark belongs to. -/
def series : Mark → Series
  | .received topic => ⟨"worker_messages_received_total", [("topic", topic)]⟩
  | .committed topic => ⟨"worker_commits_total", [("topic", topic)]⟩
  | .commitFailed topic => ⟨"worker_commit_errors_total", [("topic", topic)]⟩
  | .brokerFailed topic => ⟨"worker_broker_errors_total", [("topic", topic)]⟩
  | .intakeDepth topic _ => ⟨"worker_intake_depth", [("topic", topic)]⟩
  | .consumerPaused topic _ => ⟨"worker_consumer_paused", [("topic", topic)]⟩
  | .retryScheduled topic code => ⟨"worker_retries_total", [("topic", topic), ("code", code)]⟩
  | .deadLettered topic code =>
      ⟨"worker_dead_letters_total", [("topic", topic), ("code", code)]⟩
  | .redelivered topic => ⟨"worker_redeliveries_total", [("topic", topic)]⟩
  | .jobCompleted => ⟨"stt_jobs_total", [("status", "completed")]⟩
  | .jobFailed => ⟨"stt_jobs_total", [("status", "failed")]⟩
  | .jobDuplicate => ⟨"stt_jobs_total", [("status", "duplicate")]⟩
  | .failed code => ⟨"stt_failures_total", [("code", code)]⟩
  | .downloaded => ⟨"stt_download_seconds_count", []⟩
  | .transcribed => ⟨"stt_transcribe_seconds_count", []⟩
  | .processed => ⟨"stt_processing_seconds_count", []⟩

/-- The sample after a mark, given the one before it. -/
def update (mark : Mark) (before : Option Sample) : Sample :=
  match mark with
  | .intakeDepth _ depth => .gauge depth
  | .consumerPaused _ paused => .gauge (if paused then 1 else 0)
  | _ =>
      match before with
      | some (.counter count) => .counter (count + 1)
      | _ => .counter 1

end Metrics

/-- Samples by series. -/
structure Metrics where
  samples : List (Metrics.Series × Metrics.Sample) := []
deriving DecidableEq, Repr

namespace Metrics

/-- Note a mark. -/
def noteIn (mark : Mark) : List (Series × Sample) → List (Series × Sample)
  | [] => [(series mark, update mark none)]
  | (other, sample) :: rest =>
      if other = series mark then (other, update mark (some sample)) :: rest
      else (other, sample) :: noteIn mark rest

/-- The metrics after a mark. -/
def note (metrics : Metrics) (mark : Mark) : Metrics :=
  ⟨noteIn mark metrics.samples⟩

/-- The metrics after marks. -/
def noteAll (metrics : Metrics) (marks : List Mark) : Metrics :=
  marks.foldl note metrics

/-- A label text with backslashes, quotes and line ends escaped. -/
def escapeLabel (text : String) : String :=
  String.ofList (text.toList.flatMap fun c =>
    if c = '\\' then ['\\', '\\'] else if c = '"' then ['\\', '"']
    else if c = '\n' then ['\\', 'n'] else [c])

/-- The labels of a series. -/
def Series.renderLabels (series : Series) : String :=
  if series.labels.isEmpty then ""
  else "\x7b" ++ String.intercalate "," (series.labels.map fun label =>
    label.1 ++ "=\"" ++ escapeLabel label.2 ++ "\"") ++ "\x7d"

/-- The number of a sample; a gauge is a double. -/
def Sample.render : Sample → String
  | .counter count => decimal count
  | .gauge value => Decimal.plain (UInt64.ofNat value).toFloat

/-- The line of a sample. -/
def renderSample (entry : Series × Sample) : String :=
  entry.1.name ++ entry.1.renderLabels ++ " " ++ entry.2.render

/-- The lines of all samples, in order. -/
def lines (metrics : Metrics) : List String :=
  (metrics.samples.map renderSample).mergeSort fun left right => decide (left ≤ right)

/-- The lines as one text. -/
def exposition (metrics : Metrics) : String :=
  String.join (metrics.lines.map (· ++ "\n"))

end Metrics

end Scribe
