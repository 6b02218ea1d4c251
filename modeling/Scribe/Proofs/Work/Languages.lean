import Scribe.Proofs.Engine.Language
import Scribe.Proofs.Work.Pipeline

/-!
# The languages that engines are asked for

Whichever engine is asked while a message is handled, it is asked for the language that the hint
of the job is resolved to; the fallback is asked for the same language as the primary engine was.
So with a supported default no engine is asked for a language that is not supported.
-/

namespace Scribe.Processor

open Scribe.Delivery
open Scribe.Dialogue
open Scribe.Work

variable {processor : Processor} {message : Broker.Message} {exchanges : List Exchange}
  {disposition : Disposition} {role : EngineRole} {recording : Recording} {language : String}
  {timeout : Time.Span} {reply : Option (Except Failure Transcript)}

/-- What a call of an engine waits for, it finds among the exchanges before the call. -/
theorem due_of_asked (step : Step)
    (course : Course (processor.process message) exchanges disposition)
    (asked : ⟨.transcribe role recording language timeout, reply⟩ ∈ exchanges)
    (taken : processor.step? (.transcribe role recording language timeout) = some step) :
    ∃ past, past ⊆ exchanges ∧
      Due processor message past step (.transcribe role recording language timeout) := by
  obtain ⟨past, late, rfl⟩ := List.append_of_mem asked
  have justified := (traced_of_process course).justified.at_split
  rw [List.nil_append] at justified
  exact ⟨past, List.subset_append_left _ _, justified.due step taken⟩

/-- Engines are asked for the language of the job's hint. -/
theorem language_of_asked (course : Course (processor.process message) exchanges disposition)
    (asked : ⟨.transcribe role recording language timeout, reply⟩ ∈ exchanges) :
    ∃ job, Job.parse message.payload = .ok job ∧
      language = processor.selector.resolveLanguage job.languageHint := by
  have first {before : Option (Except Failure Transcript)}
      (primary : ⟨.transcribe .primary recording language timeout, before⟩ ∈ exchanges) :
      ∃ job, Job.parse message.payload = .ok job ∧
        language = processor.selector.resolveLanguage job.languageHint := by
    obtain ⟨past, _, due⟩ := due_of_asked .primary course primary rfl
    cases due with
    | primary read _ _ => exact ⟨_, read, rfl⟩
  cases role with
  | primary => exact first asked
  | fallback =>
      -- The fallback is asked again what the primary engine was asked.
      obtain ⟨past, inside, due⟩ := due_of_asked .fallback course asked rfl
      cases due with
      | fallback primary _ _ => exact first (inside primary)

/-- With a supported default every engine is asked for a supported language. -/
theorem supported_of_asked {default : String} (known : default ∈ Language.supported)
    (folded : Language.IsFolded processor.selector.options.language default.toList)
    (course : Course (processor.process message) exchanges disposition)
    (asked : ⟨.transcribe role recording language timeout, reply⟩ ∈ exchanges) :
    language ∈ Language.supported := by
  obtain ⟨job, _, rfl⟩ := language_of_asked course asked
  exact Language.resolve_mem_supported known folded job.languageHint

end Scribe.Processor
