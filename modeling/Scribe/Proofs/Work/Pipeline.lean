import Scribe.Proofs.Work.Completion
import Scribe.Proofs.Work.Disk

/-!
# The stages of a job, one after another

A job takes its steps in one order and none of them twice.  A step is taken where what came
before calls for it, so that nothing is asked of a collaborator after one has failed; and it is
always taken where it is called for.  A dead letter names the stage that has failed with the code
and the words of that failure, and tells where the message came from and what it was.  In the end
the disk is as it was at first, without the files that the collaborators were given.
-/

namespace Scribe

open Scribe.Delivery
open Scribe.Dialogue
open Scribe.Work

namespace Processor

/-! ## Steps -/

/-- The steps of a job. -/
inductive Step
  | fetch
  | convert
  | primary
  | fallback
  | publish
deriving DecidableEq, Repr

/-- The steps in their order. -/
def Step.inOrder : List Step := [.fetch, .convert, .primary, .fallback, .publish]

open Classical in
/-- The step that a request is: the result of a job is the one that says it is completed. -/
noncomputable def step? (processor : Processor) : Request → Option Step
  | .fetch _ _ _ _ => some .fetch
  | .convert _ => some .convert
  | .transcribe .primary _ _ _ => some .primary
  | .transcribe .fallback _ _ _ => some .fallback
  | .send record =>
      if ∃ jobId, processor.IsCompleted jobId record then some .publish else none
  | _ => none

/-- The steps that were taken, in their order. -/
noncomputable def steps (processor : Processor) (exchanges : List Exchange) : List Step :=
  exchanges.filterMap fun exchange => processor.step? exchange.question

/-- The step that an exchange calls for: once there is a place for the files of a job it is the
download, and from there each success calls for the next step, while a failure calls for the
stand-in of the engine that failed, if it has one, and else for nothing. -/
def called? (processor : Processor) : Exchange → Option Step
  | ⟨.makeDirectory _, .ok _⟩ => some .fetch
  | ⟨.fetch _ _ _ _, .ok _⟩ => some .convert
  | ⟨.convert _, .ok recording⟩ =>
      if recording.seconds > processor.maxSeconds then none else some .primary
  | ⟨.transcribe role _ _ timeout, reply⟩ =>
      match Selector.heard timeout reply with
      | .ok _ => some .publish
      | .error _ =>
          if role = .primary ∧ processor.selector.standIn?.isSome then some .fallback else none
  | _ => none

/-- The steps that were called for, in their order. -/
def called (processor : Processor) (exchanges : List Exchange) : List Step :=
  exchanges.filterMap processor.called?

section

variable {processor : Processor}

@[simp] theorem steps_nil : processor.steps [] = [] := rfl
@[simp] theorem called_nil : processor.called [] = [] := rfl

@[simp] theorem steps_append (early late : List Exchange) :
    processor.steps (early ++ late) = processor.steps early ++ processor.steps late :=
  List.filterMap_append

@[simp] theorem called_append (early late : List Exchange) :
    processor.called (early ++ late) = processor.called early ++ processor.called late :=
  List.filterMap_append

@[simp] theorem steps_cons (exchange : Exchange) (rest : List Exchange) :
    processor.steps (exchange :: rest) =
      (processor.step? exchange.question).toList ++ processor.steps rest := by
  cases taken : processor.step? exchange.question <;> simp [steps, taken]

@[simp] theorem called_cons (exchange : Exchange) (rest : List Exchange) :
    processor.called (exchange :: rest) =
      (processor.called? exchange).toList ++ processor.called rest := by
  cases next : processor.called? exchange <;> simp [called, next]

@[simp] theorem step?_flush (timeout : Time.Span) :
    processor.step? (.flush timeout) = none := rfl

theorem step?_of_completed {jobId : String} {record : Broker.Record}
    (completed : processor.IsCompleted jobId record) :
    processor.step? (.send record) = some .publish :=
  if_pos ⟨jobId, completed⟩

theorem step?_of_told {message : Broker.Message} {record : Broker.Record}
    (consequence : Consequence processor message record) :
    processor.step? (.send record) = none :=
  if_neg fun ⟨jobId, completed⟩ => consequence.not_completed jobId completed

end

/-! ## What a step waits for, and what a dead letter tells -/

/-- A step is due after what came before: its collaborator is asked with what it is to be given,
and the step in front of it has succeeded. -/
inductive Due (processor : Processor) (message : Broker.Message) (past : List Exchange) :
    Step → Request → Prop
  | fetch {job : Job} {drawn : Nat} (read : Job.parse message.payload = .ok job)
      (unknown : ⟨.isCompleted job.jobId, false⟩ ∈ past)
      (made : ⟨.makeDirectory processor.directory, .ok ()⟩ ∈ past)
      (drew : ⟨.drawNumber, drawn⟩ ∈ past) :
      Due processor message past .fetch
        (.fetch job.audioUrl (.of processor.directory job.jobId drawn)
          processor.downloadTimeout processor.maxBytes)
  | convert {address : String} {scratch : Audio.Scratch} {timeout : Time.Span} {limit : Nat}
      (fetched : ⟨.fetch address scratch timeout limit, .ok ()⟩ ∈ past) :
      Due processor message past .convert (.convert scratch)
  | primary {job : Job} {scratch : Audio.Scratch} {recording : Recording}
      (read : Job.parse message.payload = .ok job)
      (converted : ⟨.convert scratch, .ok recording⟩ ∈ past)
      (fits : ¬ recording.seconds > processor.maxSeconds) :
      Due processor message past .primary
        (.transcribe .primary recording (processor.selector.resolveLanguage job.languageHint)
          processor.selector.options.timeout)
  | fallback {recording : Recording} {language : String} {timeout : Time.Span}
      {reply : Option (Except Failure Transcript)} {failure : Failure} {engine : Engine}
      (asked : ⟨.transcribe .primary recording language timeout, reply⟩ ∈ past)
      (failed : Selector.heard timeout reply = .error failure)
      (standIn : processor.selector.standIn? = some engine) :
      Due processor message past .fallback (.transcribe .fallback recording language timeout)
  | publish {job : Job} {role : EngineRole} {recording : Recording} {language : String}
      {timeout : Time.Span} {transcript : Transcript} {engine : Engine} {now : Time.Stamp}
      (read : Job.parse message.payload = .ok job)
      (heard : ⟨.transcribe role recording language timeout, some (.ok transcript)⟩ ∈ past)
      (asked : processor.selector.engineOf? role = some engine) (told : ⟨.now, now⟩ ∈ past) :
      Due processor message past .publish
        (.send (processor.resultRecord job
          (completedResult job ⟨transcript, engine, role == .fallback⟩ now)))

/-- A stage has failed in what came before: the payload is no job; the scratch directory, the
download, the conversion or the length of the recording; the engine that was asked last; or
sending the result or delivering it. -/
inductive Blamed (processor : Processor) (message : Broker.Message) (past : List Exchange) :
    Stage → Failure → Prop
  | payload {failure : Failure} (read : Job.parse message.payload = .error failure) :
      Blamed processor message past .validation failure
  | directory {failure : Failure}
      (made : ⟨.makeDirectory processor.directory, .error failure⟩ ∈ past) :
      Blamed processor message past .download failure
  | fetch {address : String} {scratch : Audio.Scratch} {timeout : Time.Span} {limit : Nat}
      {failure : Failure}
      (fetched : ⟨.fetch address scratch timeout limit, .error failure⟩ ∈ past) :
      Blamed processor message past .download failure
  | convert {scratch : Audio.Scratch} {failure : Failure}
      (converted : ⟨.convert scratch, .error failure⟩ ∈ past) :
      Blamed processor message past .download failure
  | length {scratch : Audio.Scratch} {recording : Recording}
      (converted : ⟨.convert scratch, .ok recording⟩ ∈ past)
      (long : recording.seconds > processor.maxSeconds) :
      Blamed processor message past .download (tooLong processor.maxSeconds)
  | engine {role : EngineRole} {recording : Recording} {language : String} {timeout : Time.Span}
      {reply : Option (Except Failure Transcript)} {failure : Failure}
      (asked : ⟨.transcribe role recording language timeout, reply⟩ ∈ past)
      (failed : Selector.heard timeout reply = .error failure)
      (last : role = .primary → processor.selector.standIn? = none) :
      Blamed processor message past .transcribe failure
  | refused {jobId : String} {record : Broker.Record} {error : Broker.Error}
      (completed : processor.IsCompleted jobId record)
      (refused : ⟨.send record, .error error⟩ ∈ past) :
      Blamed processor message past .publish (ErrorChain.broker error).convert
  | undelivered {jobId : String} {record : Broker.Record} {timeout : Time.Span}
      {error : Broker.Error} (completed : processor.IsCompleted jobId record)
      (sent : ⟨.send record, .ok ()⟩ ∈ past)
      (undelivered : ⟨.flush timeout, .error error⟩ ∈ past) :
      Blamed processor message past .publish (ErrorChain.broker error).convert

/-- A record is a dead letter: it goes to their topic and is written as one.  The copy of a
message may go there too, but has headers. -/
structure IsDeadLetter (processor : Processor) (record : Broker.Record) : Prop where
  topic : record.topic = processor.retry.deadTopic
  headers : record.headers = []
  payload : ∃ letter : DeadLetter, record.payload = letter.toJson.bytes

/-- A record tells of a message where it stood, how often it was tried, what it was as far as its
bytes are JSON, and which stage has failed with which failure. -/
def Reports (processor : Processor) (message : Broker.Message) (past : List Exchange)
    (record : Broker.Record) : Prop :=
  ∃ stage failure failedAt, Blamed processor message past stage failure ∧
    record.payload = (DeadLetter.toJson
      { topic := message.topic
        partition := message.partition
        offset := message.offset
        failedAt
        failureStage := stage.name
        job := (Json.read message.payload).toOption
        errorCode := failure.code.name
        errorMessage := failure.message
        attempt := message.attempt }).bytes

/-- An exchange is what it should be after those before it: a step that is due, and no dead letter
but one that reports the message. -/
structure Justified (processor : Processor) (message : Broker.Message) (past : List Exchange)
    (exchange : Exchange) : Prop where
  due : ∀ step, processor.step? exchange.question = some step →
    Due processor message past step exchange.question
  reports : ∀ record, exchange.question = .send record → processor.IsDeadLetter record →
    Reports processor message past record

section

variable {processor : Processor} {message : Broker.Message} {past : List Exchange}

theorem justified_of_plain {exchange : Exchange}
    (plain : processor.step? exchange.question = none) (unsent : requested? exchange = none) :
    Justified processor message past exchange := by
  refine ⟨fun step taken => ?_, fun record sends => ?_⟩
  · rw [plain] at taken
    cases taken
  · obtain ⟨question, answer⟩ := exchange
    cases sends
    cases unsent

theorem justified_of_due {exchange : Exchange} {step : Step}
    (due : Due processor message past step exchange.question)
    (taken : processor.step? exchange.question = some step) (unsent : requested? exchange = none) :
    Justified processor message past exchange := by
  refine ⟨fun other same => ?_, fun record sends => ?_⟩
  · rw [taken] at same
    cases same
    exact due
  · obtain ⟨question, answer⟩ := exchange
    cases sends
    cases unsent

theorem not_isDeadLetter_result (job : Job) (result : JobResult) :
    ¬ processor.IsDeadLetter (processor.resultRecord job result) :=
  fun ⟨_, _, letter, written⟩ => letter.bytes_ne_result result written.symm

theorem not_isDeadLetter_copy (key : Option String) (attempt : Nat) :
    ¬ processor.IsDeadLetter (processor.retry.retryRecord message key attempt) :=
  fun letter => Broker.Headers.set_ne_nil _ _ _ letter.headers

theorem Blamed.mono {other : List Exchange} {stage : Stage} {failure : Failure}
    (blamed : Blamed processor message past stage failure) (inside : past ⊆ other) :
    Blamed processor message other stage failure := by
  cases blamed with
  | payload read => exact .payload read
  | directory made => exact .directory (inside made)
  | fetch fetched => exact .fetch (inside fetched)
  | convert converted => exact .convert (inside converted)
  | length converted long => exact .length (inside converted) long
  | engine asked failed last => exact .engine (inside asked) failed last
  | refused completed refused => exact .refused completed (inside refused)
  | undelivered completed sent undelivered =>
      exact .undelivered completed (inside sent) (inside undelivered)

end

/-! ## Each stage -/

/-- The step that a result leads to. -/
def Step.onSuccess {α : Type} (step : Step) : Except Failure α → List Step
  | .ok _ => [step]
  | .error _ => []

section

variable {processor : Processor} {message : Broker.Message} {past exchanges : List Exchange}
  {job : Job} {scratch : Audio.Scratch} {recording : Recording} {language : String}

theorem Prepared.progress {result : Except Failure Recording}
    (prepared : Prepared processor job scratch exchanges result) :
    .fetch :: processor.called exchanges =
      processor.steps exchanges ++ Step.primary.onSuccess result := by
  cases prepared with
  | unfetched failure => rfl
  | unconverted failure => rfl
  | tooLong recording long => simp [fetched, step?, called?, Step.onSuccess, long]
  | ready recording fits => simp [fetched, step?, called?, Step.onSuccess, fits]

theorem Prepared.inOrder {result : Except Failure Recording}
    (prepared : Prepared processor job scratch exchanges result) :
    (processor.steps exchanges).Sublist [.fetch, .convert] := by
  cases prepared with
  | unfetched failure => exact List.sublist_append_left [Step.fetch] [.convert]
  | _ => exact List.Sublist.refl [Step.fetch, .convert]

theorem Prepared.justified {result : Except Failure Recording}
    (prepared : Prepared processor job scratch exchanges result)
    (due : Due processor message past .fetch
      (.fetch job.audioUrl scratch processor.downloadTimeout processor.maxBytes)) :
    EachAfter (Justified processor message) past exchanges := by
  have first (answer : Except Failure Unit) :
      Justified processor message past (processor.fetched job scratch answer) :=
    justified_of_due due rfl rfl
  have second (answer : Except Failure Recording) :
      Justified processor message
        (past ++ [processor.fetched job scratch (.ok ())] ++ [⟨.note .downloaded, ()⟩])
        ⟨.convert scratch, answer⟩ := by
    have downloaded : processor.fetched job scratch (.ok ()) ∈
        past ++ [processor.fetched job scratch (.ok ())] ++ [⟨.note .downloaded, ()⟩] :=
      List.mem_append_left _ (List.mem_append_right past List.mem_cons_self)
    exact justified_of_due (.convert downloaded) rfl rfl
  cases prepared with
  | unfetched failure => exact ⟨first _, trivial⟩
  | unconverted failure => exact ⟨first _, justified_of_plain rfl rfl, second _, trivial⟩
  | tooLong recording long => exact ⟨first _, justified_of_plain rfl rfl, second _, trivial⟩
  | ready recording fits => exact ⟨first _, justified_of_plain rfl rfl, second _, trivial⟩

theorem Prepared.converted (prepared : Prepared processor job scratch exchanges (.ok recording)) :
    ⟨.convert scratch, .ok recording⟩ ∈ exchanges ∧
      ¬ recording.seconds > processor.maxSeconds := by
  cases prepared with
  | ready _ fits => exact ⟨by simp, fits⟩

theorem Prepared.blamed {failure : Failure}
    (prepared : Prepared processor job scratch exchanges (.error failure)) :
    Blamed processor message exchanges .download failure := by
  cases prepared with
  | unfetched => exact .fetch List.mem_cons_self
  | unconverted => exact @Blamed.convert _ _ _ scratch _ (by simp)
  | tooLong recording long => exact @Blamed.length _ _ _ scratch _ (by simp) long

theorem asked_progress {result : Except Failure Transcription}
    (asked : Selector.Asked processor.selector recording language exchanges result) :
    .primary :: processor.called exchanges =
      processor.steps exchanges ++ Step.publish.onSuccess result := by
  cases asked with
  | understood heard => simp [Selector.call, step?, called?, Step.onSuccess, heard]
  | alone failed none => simp [Selector.call, step?, called?, Step.onSuccess, failed, none]
  | @replaced first second failure engine failed standIn =>
      cases said : Selector.heard processor.selector.options.timeout second with
      | ok transcript =>
          simp [Selector.call, Selector.outcome, step?, called?, Step.onSuccess, failed, standIn,
            said, Except.map]
      | error other =>
          simp [Selector.call, Selector.outcome, step?, called?, Step.onSuccess, failed, standIn,
            said, Except.map]

theorem asked_inOrder {result : Except Failure Transcription}
    (asked : Selector.Asked processor.selector recording language exchanges result) :
    (processor.steps exchanges).Sublist [.primary, .fallback] := by
  cases asked with
  | replaced => exact List.Sublist.refl [Step.primary, .fallback]
  | _ => exact List.sublist_append_left [Step.primary] [.fallback]

theorem asked_justified {result : Except Failure Transcription}
    (asked : Selector.Asked processor.selector recording language exchanges result)
    (due : Due processor message past .primary
      (.transcribe .primary recording language processor.selector.options.timeout)) :
    EachAfter (Justified processor message) past exchanges := by
  have first (reply : Option (Except Failure Transcript)) :
      Justified processor message past
        (processor.selector.call recording language .primary reply) :=
    justified_of_due due rfl rfl
  cases asked with
  | understood => exact ⟨first _, trivial⟩
  | alone => exact ⟨first _, trivial⟩
  | replaced failed standIn =>
      refine ⟨first _, justified_of_due (.fallback ?_ failed standIn) rfl rfl, trivial⟩
      exact List.mem_append_right past List.mem_cons_self

/-- A transcription comes from an engine that was asked. -/
theorem asked_heard {transcription : Transcription}
    (asked : Selector.Asked processor.selector recording language exchanges (.ok transcription)) :
    ∃ role transcript engine, transcription = ⟨transcript, engine, role == .fallback⟩ ∧
      processor.selector.engineOf? role = some engine ∧
      ⟨.transcribe role recording language processor.selector.options.timeout,
        some (.ok transcript)⟩ ∈ exchanges := by
  generalize told : Except.ok transcription = result at asked
  cases asked with
  | alone => cases told
  | @understood first transcript heard =>
      cases told
      obtain rfl := Selector.heard_eq_ok_iff.mp heard
      exact ⟨.primary, transcript, processor.selector.primary, rfl, rfl, List.mem_cons_self⟩
  | @replaced first second failure engine failed standIn =>
      cases said : Selector.heard processor.selector.options.timeout second with
      | error other =>
          simp only [Selector.outcome, said, Except.map] at told
          cases told
      | ok transcript =>
          simp only [Selector.outcome, said, Except.map] at told
          cases told
          obtain rfl := Selector.heard_eq_ok_iff.mp said
          refine ⟨.fallback, transcript, engine, rfl, ?_, by simp [Selector.call]⟩
          exact Selector.fallback_of_standIn standIn

theorem asked_blamed {failure : Failure}
    (asked : Selector.Asked processor.selector recording language exchanges (.error failure)) :
    Blamed processor message exchanges .transcribe failure := by
  generalize told : Except.error failure = result at asked
  cases asked with
  | understood => cases told
  | alone failed none =>
      cases told
      exact .engine List.mem_cons_self failed fun _ => none
  | @replaced first second _ engine failed standIn =>
      cases said : Selector.heard processor.selector.options.timeout second with
      | ok transcript =>
          simp only [Selector.outcome, said, Except.map] at told
          cases told
      | error other =>
          simp only [Selector.outcome, said, Except.map] at told
          cases told
          refine .engine (List.mem_cons_of_mem _ List.mem_cons_self) said ?_
          intro primary
          cases primary

variable {transcription : Transcription} {now : Time.Stamp} {told : Except Broker.Error Unit}

theorem published_progress
    (published : Published processor.retry.flushTimeout
      (processor.resultRecord job (completedResult job transcription now)) exchanges told) :
    processor.steps exchanges = [.publish] ∧ processor.called exchanges = [] := by
  have step := step?_of_completed (isCompleted_completedResult processor job transcription now)
  cases published with
  | refused error => simp [step, called?]
  | undelivered error => simp [sent, step, called?]
  | delivered => simp [sent, flushed, step, called?]

theorem published_justified
    (published : Published processor.retry.flushTimeout
      (processor.resultRecord job (completedResult job transcription now)) exchanges told)
    (due : Due processor message past .publish
      (.send (processor.resultRecord job (completedResult job transcription now)))) :
    EachAfter (Justified processor message) past exchanges := by
  have first (answer : Except Broker.Error Unit) :
      Justified processor message past
        ⟨.send (processor.resultRecord job (completedResult job transcription now)), answer⟩ := by
    refine ⟨fun step taken => ?_, fun record sends letter => ?_⟩
    · rw [step?_of_completed
        (isCompleted_completedResult processor job transcription now)] at taken
      cases taken
      exact due
    · cases sends
      exact absurd letter (not_isDeadLetter_result job _)
  cases published with
  | refused error => exact ⟨first _, trivial⟩
  | undelivered error => exact ⟨first _, justified_of_plain rfl rfl, trivial⟩
  | delivered => exact ⟨first _, justified_of_plain rfl rfl, trivial⟩

theorem published_blamed {error : Broker.Error}
    (published : Published processor.retry.flushTimeout
      (processor.resultRecord job (completedResult job transcription now)) exchanges
      (.error error)) :
    Blamed processor message exchanges .publish (ErrorChain.broker error).convert := by
  have completed := isCompleted_completedResult processor job transcription now
  cases published with
  | refused => exact .refused completed List.mem_cons_self
  | undelivered =>
      exact .undelivered completed List.mem_cons_self
        (List.mem_cons_of_mem _ List.mem_cons_self)

end

/-! ## The work of a job -/

section

variable {processor : Processor} {message : Broker.Message} {past exchanges : List Exchange}
  {job : Job} {language : String} {scratch : Audio.Scratch} {result : Except StageFailure Unit}

/-- Once a recording is there, each stage takes the step that the one before it calls for. -/
theorem progress_of_asked {early middle late : List Exchange} {recording : Recording}
    {heard : Except Failure Transcription}
    (prepared : Prepared processor job scratch early (.ok recording))
    (asked : Selector.Asked processor.selector recording language middle heard)
    (taken : processor.steps late = Step.publish.onSuccess heard)
    (quiet : processor.called late = []) :
    .fetch :: processor.called (early ++ (middle ++ late)) =
      processor.steps (early ++ (middle ++ late)) :=
  calc .fetch :: processor.called (early ++ (middle ++ late))
      = (.fetch :: processor.called early) ++ processor.called middle := by
        rw [called_append, called_append, quiet, List.append_nil, List.cons_append]
    _ = processor.steps early ++ (.primary :: processor.called middle) := by
        rw [prepared.progress]
        exact List.append_assoc _ _ _
    _ = processor.steps (early ++ (middle ++ late)) := by
        rw [asked_progress asked, steps_append, steps_append, taken]

theorem Carried.progress
    (carried : Carried processor job language scratch exchanges result) :
    .fetch :: processor.called exchanges = processor.steps exchanges := by
  cases carried with
  | unprepared prepared =>
      rw [prepared.progress]
      exact List.append_nil _
  | unheard prepared asked =>
      have whole := @progress_of_asked _ _ _ _ _ _ [] _ _ prepared asked rfl rfl
      rwa [List.append_nil] at whole
  | unpublished prepared asked published =>
      obtain ⟨taken, quiet⟩ := published_progress published
      apply progress_of_asked prepared asked
      · simp [step?, taken, Step.onSuccess]
      · simp [called?, quiet]
  | through prepared asked published =>
      obtain ⟨taken, quiet⟩ := published_progress published
      apply progress_of_asked prepared asked
      · simp [step?, taken, settling, Step.onSuccess]
      · simp [called?, quiet, settling]

theorem Carried.inOrder
    (carried : Carried processor job language scratch exchanges result) :
    (processor.steps exchanges).Sublist Step.inOrder := by
  cases carried with
  | unprepared prepared => exact prepared.inOrder.trans (List.sublist_append_left _ _)
  | unheard prepared asked =>
      rw [steps_append]
      have both := prepared.inOrder.append (asked_inOrder asked)
      exact both.trans (List.sublist_append_left _ [Step.publish])
  | unpublished prepared asked published =>
      have last := (published_progress published).1
      rw [steps_append, steps_append]
      refine prepared.inOrder.append ((asked_inOrder asked).append ?_)
      simp [step?, last]
  | through prepared asked published =>
      have last := (published_progress published).1
      rw [steps_append, steps_append]
      refine prepared.inOrder.append ((asked_inOrder asked).append ?_)
      simp [step?, last, settling]

theorem justified_of_asked {early middle late : List Exchange} {recording : Recording}
    {transcription : Transcription} {now : Time.Stamp} {told : Except Broker.Error Unit}
    (read : Job.parse message.payload = .ok job)
    (prepared : Prepared processor job scratch early (.ok recording))
    (asked : Selector.Asked processor.selector recording
      (processor.selector.resolveLanguage job.languageHint) middle (.ok transcription))
    (published : Published processor.retry.flushTimeout
      (processor.resultRecord job (completedResult job transcription now)) late told)
    (due : Due processor message past .fetch
      (.fetch job.audioUrl scratch processor.downloadTimeout processor.maxBytes)) :
    EachAfter (Justified processor message) past
      (early ++ (middle ++ ⟨.note .transcribed, ()⟩ :: ⟨.now, now⟩ :: late)) := by
  obtain ⟨converted, fits⟩ := prepared.converted
  have primary : Due processor message (past ++ early) .primary _ :=
    .primary read (List.mem_append_right past converted) fits
  refine (prepared.justified due).append ((asked_justified asked primary).append
    ⟨justified_of_plain rfl rfl, justified_of_plain rfl rfl, ?_⟩)
  obtain ⟨role, transcript, engine, rfl, engineOf, heard⟩ := asked_heard asked
  have before := List.mem_append_left [(⟨.now, now⟩ : Exchange)] (List.mem_append_left
    [(⟨.note .transcribed, ()⟩ : Exchange)] (List.mem_append_right (past ++ early) heard))
  exact published_justified published (.publish read before engineOf (by simp))

theorem Carried.justified (read : Job.parse message.payload = .ok job)
    (carried : Carried processor job (processor.selector.resolveLanguage job.languageHint) scratch
      exchanges result)
    (due : Due processor message past .fetch
      (.fetch job.audioUrl scratch processor.downloadTimeout processor.maxBytes)) :
    EachAfter (Justified processor message) past exchanges := by
  cases carried with
  | unprepared prepared => exact prepared.justified due
  | @unheard early _ _ _ prepared asked =>
      obtain ⟨converted, fits⟩ := prepared.converted
      have primary : Due processor message (past ++ early) .primary _ :=
        .primary read (List.mem_append_right past converted) fits
      exact (prepared.justified due).append (asked_justified asked primary)
  | unpublished prepared asked published =>
      exact justified_of_asked read prepared asked published due
  | @through early middle late recording transcription now prepared asked published =>
      have settled (past : List Exchange) :
          EachAfter (Justified processor message) past (settling job) :=
        ⟨justified_of_plain rfl rfl, justified_of_plain rfl rfl, justified_of_plain rfl rfl,
          trivial⟩
      have whole := (justified_of_asked read prepared asked published due).append (settled _)
      simpa using whole

theorem Carried.blamed {failed : StageFailure}
    (carried : Carried processor job language scratch exchanges (.error failed)) :
    Blamed processor message exchanges failed.stage failed.failure := by
  cases carried with
  | unprepared prepared => exact prepared.blamed
  | unheard prepared asked => exact (asked_blamed asked).mono (List.subset_append_right _ _)
  | @unpublished early middle late recording transcription now error prepared asked published =>
      apply (published_blamed published).mono
      intro exchange member
      simp [member]

/-! ## The work of a job with its files -/

theorem Worked.progress (worked : Worked processor job exchanges result) :
    processor.called exchanges = processor.steps exchanges := by
  cases worked with
  | homeless failure => rfl
  | housed drawn named carried =>
      have inside := carried.progress
      simp only [steps_cons, called_cons, steps_append, called_append]
      simpa [step?, called?] using inside

theorem Worked.inOrder (worked : Worked processor job exchanges result) :
    (processor.steps exchanges).Sublist Step.inOrder := by
  cases worked with
  | homeless failure => exact List.nil_sublist _
  | housed drawn named carried => simpa [step?] using carried.inOrder

theorem Worked.justified (read : Job.parse message.payload = .ok job)
    (unknown : ⟨.isCompleted job.jobId, false⟩ ∈ past)
    (worked : Worked processor job exchanges result) :
    EachAfter (Justified processor message) past exchanges := by
  cases worked with
  | homeless failure => exact ⟨justified_of_plain rfl rfl, trivial⟩
  | housed drawn named carried =>
      subst named
      refine ⟨justified_of_plain rfl rfl, justified_of_plain rfl rfl, ?_⟩
      refine (carried.justified read ?_).append ⟨justified_of_plain rfl rfl, trivial⟩
      exact .fetch read (by simp [unknown]) (by simp) (by simp)

theorem Worked.blamed {failed : StageFailure}
    (worked : Worked processor job exchanges (.error failed)) :
    Blamed processor message exchanges failed.stage failed.failure := by
  cases worked with
  | homeless failure => exact .directory List.mem_cons_self
  | housed drawn named carried =>
      apply carried.blamed.mono
      intro exchange member
      simp [member]

/-! ## What follows a failure -/

variable {payload : Option Json} {reported : Option Job} {failed : StageFailure}
  {disposition : Disposition}

theorem called?_of_aftermath {exchange : Exchange}
    (allowed : isAftermath exchange.question = true) : processor.called? exchange = none := by
  obtain ⟨question, answer⟩ := exchange
  cases question <;> first | rfl | cases allowed

theorem step?_of_aftermath {question : Request} (allowed : isAftermath question = true) :
    processor.step? question = none ∨ ∃ record, question = .send record := by
  cases question with
  | send record => exact Or.inr ⟨record, rfl⟩
  | note | drawJitter | sleep | flush | now => exact Or.inl rfl
  | _ => cases allowed

theorem mem_requested {record : Broker.Record} {answer : Except Broker.Error Unit}
    (member : (⟨.send record, answer⟩ : Exchange) ∈ exchanges) : record ∈ requested exchanges :=
  List.mem_filterMap.mpr ⟨_, member, rfl⟩

theorem step?_of_fail
    (failing : Course (processor.fail message payload reported failed) exchanges disposition) :
    ∀ exchange ∈ exchanges, processor.step? exchange.question = none := by
  rintro ⟨question, answer⟩ member
  rcases step?_of_aftermath (isAftermath_fail _ _ _ _ _ _ _ failing _ member) with
    plain | ⟨record, rfl⟩
  · exact plain
  · exact step?_of_told (consequence_of_fail failing record (mem_requested member))

theorem steps_of_fail
    (failing : Course (processor.fail message payload reported failed) exchanges disposition) :
    processor.steps exchanges = [] ∧ processor.called exchanges = [] := by
  constructor
  · exact List.filterMap_eq_nil_iff.mpr (step?_of_fail failing)
  · exact List.filterMap_eq_nil_iff.mpr fun exchange member =>
      called?_of_aftermath (isAftermath_fail _ _ _ _ _ _ _ failing exchange member)

/-- What is sent about a failure is a dead letter only if it reports the message. -/
theorem reports_of_fail (decoded : payload = (Json.read message.payload).toOption)
    (blamed : Blamed processor message past failed.stage failed.failure)
    (failing : Course (processor.fail message payload reported failed) exchanges disposition)
    {record : Broker.Record} (member : record ∈ requested exchanges)
    (letter : processor.IsDeadLetter record) : Reports processor message past record := by
  have told := requested_fail failing
  generalize requested exchanges = records at told member
  subst decoded
  cases told with
  | copy =>
      obtain rfl := List.mem_singleton.mp member
      exact absurd letter (not_isDeadLetter_copy _ _)
  | letter given =>
      obtain rfl := List.mem_singleton.mp member
      exact ⟨failed.stage, failed.failure, given, blamed, rfl⟩
  | @report given reportedAt own =>
      rcases List.mem_cons.mp member with rfl | last
      · exact ⟨failed.stage, failed.failure, given, blamed, rfl⟩
      · obtain rfl := List.mem_singleton.mp last
        exact absurd letter (not_isDeadLetter_result own _)

theorem justified_of_fail (decoded : payload = (Json.read message.payload).toOption)
    (blamed : Blamed processor message past failed.stage failed.failure)
    (failing : Course (processor.fail message payload reported failed) exchanges disposition) :
    EachAfter (Justified processor message) past exchanges := by
  apply eachAfter_of_forall
  rintro ⟨question, answer⟩ member more
  refine ⟨fun step taken => ?_, fun record sends letter => ?_⟩
  · rw [step?_of_fail failing _ member] at taken
    cases taken
  · cases sends
    exact reports_of_fail decoded (blamed.mono (List.subset_append_left _ _)) failing
      (mem_requested member) letter

/-! ## The whole handling -/

theorem Traced.progress (traced : Traced processor message exchanges disposition) :
    processor.called exchanges = processor.steps exchanges := by
  cases traced with
  | refused _ _ failing =>
      obtain ⟨steps, called⟩ := steps_of_fail failing
      rw [steps, called]
  | duplicate => rfl
  | completed _ worked => exact worked.progress
  | broken _ _ worked failing =>
      obtain ⟨steps, called⟩ := steps_of_fail failing
      simpa [step?, called?, steps, called] using worked.progress

theorem Traced.inOrder (traced : Traced processor message exchanges disposition) :
    (processor.steps exchanges).Sublist Step.inOrder := by
  cases traced with
  | refused _ _ failing =>
      rw [(steps_of_fail failing).1]
      exact List.nil_sublist _
  | duplicate => exact List.nil_sublist _
  | completed _ worked => exact worked.inOrder
  | broken _ _ worked failing =>
      simpa [step?, (steps_of_fail failing).1] using worked.inOrder

theorem Traced.justified (traced : Traced processor message exchanges disposition) :
    EachAfter (Justified processor message) [] exchanges := by
  cases traced with
  | refused decoded read failing => exact justified_of_fail decoded (.payload read) failing
  | duplicate read => exact ⟨justified_of_plain rfl rfl, justified_of_plain rfl rfl, trivial⟩
  | completed read worked =>
      exact ⟨justified_of_plain rfl rfl, worked.justified read List.mem_cons_self⟩
  | broken decoded read worked failing =>
      refine ⟨justified_of_plain rfl rfl,
        (worked.justified read List.mem_cons_self).append ?_⟩
      exact justified_of_fail decoded (worked.blamed.mono (List.subset_append_right _ _)) failing

/-- The handling of a message, one step after another. -/
structure Staged (processor : Processor) (message : Broker.Message) (exchanges : List Exchange)
    (disposition : Disposition) : Prop where
  /-- A job that is not known as completed is begun. -/
  begun : ∀ job, Job.parse message.payload = .ok job →
    ⟨.isCompleted job.jobId, true⟩ ∈ exchanges ∨
      ∃ made, ⟨.makeDirectory processor.directory, made⟩ ∈ exchanges
  /-- Steps are taken in their order, each at most once. -/
  inOrder : (processor.steps exchanges).Sublist Step.inOrder
  /-- Every step that is called for is taken. -/
  complete : processor.called exchanges = processor.steps exchanges
  /-- No step is taken before it is due, and every dead letter reports the message with the stage
  that has failed before. -/
  justified : ∀ early exchange late, exchanges = early ++ exchange :: late →
    Justified processor message early exchange
  /-- A payload that is no job goes to the dead letters at once. -/
  refused : ∀ failure, Job.parse message.payload = .error failure →
    processor.steps exchanges = [] ∧ disposition ≠ .retryScheduled ∧
      ∃ key failedAt, requested exchanges =
        [processor.retry.deadRecord key
          (.of message Stage.validation.name failure (Json.read message.payload).toOption failedAt)]
  /-- Nothing is left on the disk at the paths that collaborators were given. -/
  cleaned : ∀ before after, Run (Alters (given exchanges)) before exchanges after →
    after = before.without (given exchanges)

theorem Traced.begun (traced : Traced processor message exchanges disposition) {job : Job}
    (read : Job.parse message.payload = .ok job) :
    ⟨.isCompleted job.jobId, true⟩ ∈ exchanges ∨
      ∃ made, ⟨.makeDirectory processor.directory, made⟩ ∈ exchanges := by
  have begins {result : Except StageFailure Unit} {other : Job} {ran : List Exchange}
      (worked : Worked processor other ran result) :
      ∃ made, ⟨.makeDirectory processor.directory, made⟩ ∈ ran := by
    cases worked <;> exact ⟨_, List.mem_cons_self⟩
  cases traced with
  | refused _ refused =>
      rw [read] at refused
      cases refused
  | duplicate same =>
      rw [read] at same
      cases same
      exact Or.inl List.mem_cons_self
  | completed _ worked =>
      obtain ⟨made, member⟩ := begins worked
      exact Or.inr ⟨made, List.mem_cons_of_mem _ member⟩
  | broken _ _ worked =>
      obtain ⟨made, member⟩ := begins worked
      exact Or.inr ⟨made, List.mem_cons_of_mem _ (List.mem_append_left _ member)⟩

theorem Traced.refuses (traced : Traced processor message exchanges disposition)
    {failure : Failure} (read : Job.parse message.payload = .error failure) :
    processor.steps exchanges = [] ∧ disposition ≠ .retryScheduled ∧
      ∃ key failedAt, requested exchanges =
        [processor.retry.deadRecord key
          (.of message Stage.validation.name failure (Json.read message.payload).toOption
            failedAt)] := by
  cases traced with
  | duplicate same | completed same | broken _ same =>
      rw [read] at same
      cases same
  | @refused payload other _ _ decoded same failing =>
      rw [read] at same
      cases same
      subst decoded
      have spent : processor.retry.retries failure message.attempt = false :=
        not_retries_iff.mpr (Or.inl (Job.not_retryable_of_parse read))
      refine ⟨(steps_of_fail failing).1, ?_, ?_⟩
      · rintro rfl
        cases course_fail failing with
        | retried again =>
            rw [spent] at again
            cases again
      · have told := requested_fail failing
        generalize requested exchanges = records at told
        cases told with
        | copy again =>
            rw [spent] at again
            cases again
        | letter given => exact ⟨_, given, rfl⟩
        | report _ _ known => cases known

end

/-- Whatever the collaborators and the producer answer, the handling of a message takes its steps
one after another, reports what has failed, and leaves no files behind. -/
theorem process_staged (processor : Processor) (message : Broker.Message)
    (exchanges : List Exchange) (disposition : Disposition)
    (course : Course (processor.process message) exchanges disposition) :
    Staged processor message exchanges disposition := by
  have traced := traced_of_process course
  exact {
    begun := fun job read => traced.begun read
    inOrder := traced.inOrder
    complete := traced.progress
    justified := by
      rintro early exchange late rfl
      exact traced.justified.at_split
    refused := fun failure read => traced.refuses read
    cleaned := fun before after run => cleaned_of_traced traced run }

/-- A recording that is too long is downloaded and converted, and no engine is asked for it. -/
theorem process_staged_long :
    let processor : Processor :=
      { directory := "/tmp/stt", maxSeconds := 0.5, selector := ⟨⟨.whisper, "small"⟩, none, {}⟩ }
    let message : Broker.Message :=
      { topic := "stt.jobs"
        partition := 0
        offset := 7
        key := none
        payload := ("\x7b\"jobId\":\"a\",\"taskId\":\"b\",\"audioUrl\":\"http://[::1]/\"," ++
          "\"createdAt\":\"2026-01-01T00:00:00Z\"\x7d").toUTF8
        headers := []
        id := "7-0" }
    ∃ exchanges, Course (processor.process message) exchanges .deadLettered ∧
      Staged processor message exchanges .deadLettered ∧
      processor.steps exchanges = [.fetch, .convert] ∧
      (requested exchanges).map Broker.Record.topic =
        [processor.retry.deadTopic, processor.resultsTopic] := by
  intro processor message
  let once := (processor.process message).follow (obliging (.ok ()))
  have course : Course (processor.process message) once.1 once.2 := course_follow _ _
  have gaveUp : once.2 = .deadLettered := by decide +kernel
  rw [gaveUp] at course
  have staged := process_staged processor message once.1 .deadLettered course
  have called : processor.called once.1 = [.fetch, .convert] := by decide +kernel
  have told : (requested once.1).map Broker.Record.topic =
      [processor.retry.deadTopic, processor.resultsTopic] := by decide +kernel
  exact ⟨once.1, course, staged, staged.complete.symm.trans called, told⟩

end Processor

end Scribe
