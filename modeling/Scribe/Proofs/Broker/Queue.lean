import Mathlib.Data.List.Nodup
import Scribe.Broker.Memory
import Scribe.Proofs.Run

/-!
# A broker in memory keeps what it is given

Whatever calls a broker in memory gets, each topic counts its own offsets, and a message is
delivered or waits, but never both and never twice.  A poll that nothing hinders gets the earliest
message that waits in one of the topics subscribed to.  What is committed and what is sent are
logged if they are accepted, and leave nothing but a count behind if they are not.

All of this is said of the calls and their answers alone: what was pushed and delivered, what is
set, and what waits are read from these, and the broker is shown to hold just that.
-/

namespace Scribe.Broker.Memory

/-! ## Calls and their answers -/

/-- What a broker can be told to fail at, or to report the end of. -/
inductive Switch
  | failSends
  | failPolls
  | endPolls
  | failCommits

/-- Something that a broker in memory is told. -/
inductive Call
  | push (topic : String) (key : Option String) (payload : ByteArray) (headers : Headers)
  | subscribe (topics : List String)
  | poll
  | pause
  | resume
  | commit (message : Message)
  | close
  | send (record : Record)
  | set (switch : Switch) (value : Bool)

/-- What a call is answered with. -/
abbrev Call.Answer : Call → Type
  | .push _ _ _ _ => Nat
  | .poll => Except Error (Option Message)
  | .commit _ => Except Error Unit
  | .send _ => Except Error Unit
  | _ => Unit

/-- Set a switch. -/
def set (memory : Memory) (value : Bool) : Switch → Memory
  | .failSends => { memory with failSends := value }
  | .failPolls => { memory with failPolls := value }
  | .endPolls => { memory with endPolls := value }
  | .failCommits => { memory with failCommits := value }

/-- The answer to a call, and the broker afterwards. -/
def perform (memory : Memory) : (call : Call) → call.Answer × Memory
  | .push topic key payload headers => memory.push topic key payload headers
  | .subscribe topics => ((), memory.subscribe topics)
  | .poll => memory.poll
  | .pause => ((), memory.pause)
  | .resume => ((), memory.resume)
  | .commit message => memory.commit message
  | .close => ((), memory.close)
  | .send record => memory.send record
  | .set switch value => ((), memory.set value switch)

/-- A call with its answer. -/
structure Deed where
  call : Call
  answer : call.Answer

/-- A call of a broker, and the broker that it leaves. -/
def Goes (memory : Memory) (deed : Deed) (after : Memory) : Prop :=
  memory.perform deed.call = (deed.answer, after)

/-- Make one more call. -/
def advance (state : List Deed × Memory) (call : Call) : List Deed × Memory :=
  let (answer, after) := state.2.perform call
  (state.1 ++ [⟨call, answer⟩], after)

/-- Make calls one after another, from a new broker on. -/
def carryOut (calls : List Call) : List Deed × Memory :=
  calls.foldl advance ([], {})

theorem run_foldl {start : Memory} (calls : List Call) {state : List Deed × Memory}
    (run : Run Goes start state.1 state.2) :
    Run Goes start (calls.foldl advance state).1 (calls.foldl advance state).2 := by
  induction calls generalizing state with
  | nil => exact run
  | cons call rest ih => exact ih (.next run ⟨call, _⟩ rfl)

theorem run_carryOut (calls : List Call) : Run Goes {} (carryOut calls).1 (carryOut calls).2 :=
  run_foldl calls .none

/-! ## What calls and answers tell -/

/-- A message with the offset that it got in its topic. -/
def entered (topic : String) (key : Option String) (payload : ByteArray) (headers : Headers)
    (offset : Nat) : Message :=
  { topic, partition := 0, offset, key, payload, headers
    id := topic ++ "-0-" ++ Text.decimal offset }

namespace Deed

/-- The message that a call pushed. -/
def pushed? : Deed → Option Message
  | ⟨.push topic key payload headers, offset⟩ => some (entered topic key payload headers offset)
  | _ => none

/-- The message that a call delivered. -/
def delivered? : Deed → Option Message
  | ⟨.poll, .ok found⟩ => found
  | _ => none

/-- The message whose commit a call accepted. -/
def committed? : Deed → Option Message
  | ⟨.commit message, .ok _⟩ => some message
  | _ => none

/-- The record that a call accepted. -/
def sent? : Deed → Option Record
  | ⟨.send record, .ok _⟩ => some record
  | _ => none

/-- The message whose commit a call rejected. -/
def rejected? : Deed → Option Message
  | ⟨.commit message, .error _⟩ => some message
  | _ => none

end Deed

/-- The messages that were pushed, in order. -/
def pushed (deeds : List Deed) : List Message := deeds.filterMap Deed.pushed?

/-- The messages that were delivered, in order. -/
def delivered (deeds : List Deed) : List Message := deeds.filterMap Deed.delivered?

/-- The messages of a topic. -/
def ofTopic (topic : String) (messages : List Message) : List Message :=
  messages.filter fun message => message.topic = topic

/-- The messages that were pushed and not delivered, in order. -/
def waiting (deeds : List Deed) : List Message :=
  (pushed deeds).filter fun message => message ∉ delivered deeds

/-- What a broker has been told to do from now on. -/
structure Mode where
  subscribed : List String := []
  paused : Bool := false
  closed : Bool := false
  failSends : Bool := false
  failPolls : Bool := false
  endPolls : Bool := false
  failCommits : Bool := false

/-- The mode after one more call. -/
def Mode.after (mode : Mode) : Call → Mode
  | .subscribe topics => { mode with subscribed := topics }
  | .pause => { mode with paused := true }
  | .resume => { mode with paused := false }
  | .close => { mode with closed := true }
  | .set .failSends value => { mode with failSends := value }
  | .set .failPolls value => { mode with failPolls := value }
  | .set .endPolls value => { mode with endPolls := value }
  | .set .failCommits value => { mode with failCommits := value }
  | _ => mode

/-- The mode after some calls. -/
def modeAfter (deeds : List Deed) : Mode :=
  deeds.foldl (fun mode deed => mode.after deed.call) {}

/-- Whether nothing hinders a poll. -/
structure Mode.IsFree (mode : Mode) : Prop where
  opened : mode.closed = false
  working : mode.failPolls = false
  going : mode.endPolls = false
  active : mode.paused = false

/-- How a poll is answered in a mode, where some messages wait. -/
inductive Polled (mode : Mode) (waits : List Message) : Except Error (Option Message) → Prop
  | closed (shut : mode.closed = true) : Polled mode waits (.error .closed)
  | rejected (opened : mode.closed = false) (failing : mode.failPolls = true) :
      Polled mode waits (.error (.other "poll rejected"))
  | ended (opened : mode.closed = false) (working : mode.failPolls = false)
      (ending : mode.endPolls = true) :
      Polled mode waits (.error (.endOfPartition (mode.subscribed.head?.getD "") 0))
  | held (opened : mode.closed = false) (working : mode.failPolls = false)
      (going : mode.endPolls = false) (paused : mode.paused = true) :
      Polled mode waits (.ok none)
  | found (free : mode.IsFree) (earlier later : List Message) (message : Message)
      (place : waits = earlier ++ message :: later) (wanted : message.topic ∈ mode.subscribed)
      (unwanted : ∀ other ∈ earlier, other.topic ∉ mode.subscribed) :
      Polled mode waits (.ok (some message))
  | nothing (free : mode.IsFree) (unwanted : ∀ other ∈ waits, other.topic ∉ mode.subscribed) :
      Polled mode waits (.ok none)

/-! ## What one call does -/

theorem count_bump (topic other : String) (counts : List (String × Nat)) :
    count topic (bump other counts) =
      if other = topic then count topic counts + 1 else count topic counts := by
  induction counts with
  | nil =>
      simp only [bump, count]
  | cons entry rest ih =>
      obtain ⟨name, n⟩ := entry
      by_cases same : name = other
      · subst same
        by_cases here : name = topic <;> simp [bump, count, here]
      · by_cases here : name = topic
        · subst here
          simp [bump, count, same, Ne.symm same]
        · simp [bump, count, same, here, ih]

/-- Either nothing is wanted, or the first that is wanted is taken out. -/
theorem takeFirst_cases (wanted : Message → Bool) (queue : List Message) :
    (takeFirst wanted queue = (none, queue) ∧ ∀ other ∈ queue, wanted other = false) ∨
    ∃ earlier message later, queue = earlier ++ message :: later ∧
      takeFirst wanted queue = (some message, earlier ++ later) ∧ wanted message = true ∧
      ∀ other ∈ earlier, wanted other = false := by
  induction queue with
  | nil => exact Or.inl ⟨rfl, by simp⟩
  | cons first rest ih =>
      cases here : wanted first with
      | true => exact Or.inr ⟨[], first, rest, rfl, by simp [takeFirst, here], here, by simp⟩
      | false =>
          rcases ih with ⟨same, unwanted⟩ | ⟨earlier, message, later, rfl, same, found, passed⟩
          · exact Or.inl ⟨by simp [takeFirst, here, same],
              List.forall_mem_cons.mpr ⟨here, unwanted⟩⟩
          · exact Or.inr ⟨first :: earlier, message, later, rfl, by simp [takeFirst, here, same],
              found, List.forall_mem_cons.mpr ⟨here, passed⟩⟩

/-- The mode that a broker is in. -/
def mode (memory : Memory) : Mode where
  subscribed := memory.subscribed
  paused := memory.paused
  closed := memory.closed
  failSends := memory.failSends
  failPolls := memory.failPolls
  endPolls := memory.endPolls
  failCommits := memory.failCommits

/-- What a call does to the messages: one is put at the end, one is taken out, or none is
touched. -/
inductive Shifts (before : Memory) : Deed → Memory → Prop
  | entered {after : Memory} (topic : String) (key : Option String) (payload : ByteArray)
      (headers : Headers)
      (queue : after.queue = before.queue ++
        [entered topic key payload headers (count topic before.counts)])
      (counts : after.counts = bump topic before.counts) :
      Shifts before ⟨.push topic key payload headers, count topic before.counts⟩ after
  | taken {after : Memory} (earlier later : List Message) (message : Message)
      (place : before.queue = earlier ++ message :: later)
      (unwanted : ∀ other ∈ earlier, other.topic ≠ message.topic)
      (queue : after.queue = earlier ++ later) (counts : after.counts = before.counts) :
      Shifts before ⟨.poll, .ok (some message)⟩ after
  | still {deed : Deed} {after : Memory} (quiet : deed.pushed? = none)
      (silent : deed.delivered? = none) (queue : after.queue = before.queue)
      (counts : after.counts = before.counts) : Shifts before deed after

/-- A poll is answered as the mode has it, and takes out just what it delivers. -/
theorem polled_of_poll {memory after : Memory} {result : Except Error (Option Message)}
    (polling : memory.poll = (result, after)) :
    Polled memory.mode memory.queue result ∧ Shifts memory ⟨.poll, result⟩ after := by
  unfold poll at polling
  split at polling
  next shut =>
    cases polling
    exact ⟨.closed shut, .still rfl rfl rfl rfl⟩
  next opened =>
  have opened : memory.closed = false := Bool.eq_false_iff.mpr opened
  dsimp only at polling
  split at polling
  next failing =>
    cases polling
    exact ⟨.rejected opened failing, .still rfl rfl rfl rfl⟩
  next working =>
  have working : memory.failPolls = false := Bool.eq_false_iff.mpr working
  split at polling
  next ending =>
    cases polling
    exact ⟨.ended opened working ending, .still rfl rfl rfl rfl⟩
  next going =>
  have going : memory.endPolls = false := Bool.eq_false_iff.mpr going
  split at polling
  next paused =>
    cases polling
    exact ⟨.held opened working going paused, .still rfl rfl rfl rfl⟩
  next active =>
  have free : memory.mode.IsFree := ⟨opened, working, going, Bool.eq_false_iff.mpr active⟩
  rcases takeFirst_cases (fun message => memory.subscribed.contains message.topic) memory.queue
    with ⟨same, unwanted⟩ | ⟨earlier, message, later, place, same, wanted, unwanted⟩
  · simp only [same] at polling
    cases polling
    refine ⟨.nothing free fun other member inside => ?_, .still rfl rfl rfl rfl⟩
    cases (unwanted other member).symm.trans (List.contains_iff_mem.mpr inside)
  · simp only [same] at polling
    cases polling
    refine ⟨.found free earlier later message place (List.contains_iff_mem.mp wanted) ?_,
      .taken earlier later message place ?_ rfl rfl⟩
    · intro other member inside
      cases (unwanted other member).symm.trans (List.contains_iff_mem.mpr inside)
    · intro other member equal
      have refused := unwanted other member
      rw [equal] at refused
      cases refused.symm.trans wanted

theorem Goes.shifts {before after : Memory} {deed : Deed} (goes : Goes before deed after) :
    Shifts before deed after := by
  obtain ⟨call, answer⟩ := deed
  cases call with
  | push topic key payload headers =>
      cases goes
      exact .entered topic key payload headers rfl rfl
  | poll => exact (polled_of_poll goes).2
  | commit message =>
      change before.commit message = _ at goes
      unfold commit at goes
      split at goes <;> cases goes <;> exact .still rfl rfl rfl rfl
  | send record =>
      change before.send record = _ at goes
      unfold send at goes
      split at goes <;> cases goes <;> exact .still rfl rfl rfl rfl
  | set switch value =>
      cases goes
      cases switch <;> exact .still rfl rfl rfl rfl
  | subscribe topics => cases goes; exact .still rfl rfl rfl rfl
  | pause => cases goes; exact .still rfl rfl rfl rfl
  | resume => cases goes; exact .still rfl rfl rfl rfl
  | close => cases goes; exact .still rfl rfl rfl rfl

/-- A poll changes nothing but what waits and how often there was a poll. -/
theorem poll_frame (memory : Memory) :
    ∃ queue polls, memory.poll.2 = { memory with queue, polls } := by
  unfold poll
  split
  · exact ⟨_, _, rfl⟩
  · dsimp only
    split
    · exact ⟨_, _, rfl⟩
    · split
      · exact ⟨_, _, rfl⟩
      · split
        · exact ⟨_, _, rfl⟩
        · exact ⟨_, _, rfl⟩

/-- What a call does apart from the messages that wait. -/
structure Logs (before : Memory) (deed : Deed) (after : Memory) : Prop where
  mode : after.mode = before.mode.after deed.call
  committed : after.committed = before.committed ++ deed.committed?.toList
  sent : after.sent = before.sent ++ deed.sent?.toList
  failedCommits : after.failedCommits = before.failedCommits + deed.rejected?.toList.length

theorem Goes.logs {before after : Memory} {deed : Deed} (goes : Goes before deed after) :
    Logs before deed after := by
  obtain ⟨call, answer⟩ := deed
  cases call with
  | poll =>
      obtain ⟨queue, polls, same⟩ := poll_frame before
      cases same.symm.trans (congrArg Prod.snd goes)
      exact ⟨rfl, (List.append_nil _).symm, (List.append_nil _).symm, rfl⟩
  | commit message =>
      change before.commit message = _ at goes
      unfold commit at goes
      split at goes <;> cases goes
      · exact ⟨rfl, (List.append_nil _).symm, (List.append_nil _).symm, rfl⟩
      · exact ⟨rfl, rfl, (List.append_nil _).symm, rfl⟩
  | send record =>
      change before.send record = _ at goes
      unfold send at goes
      split at goes <;> cases goes
      · exact ⟨rfl, (List.append_nil _).symm, (List.append_nil _).symm, rfl⟩
      · exact ⟨rfl, (List.append_nil _).symm, rfl, rfl⟩
  | set switch value =>
      cases goes
      cases switch <;> exact ⟨rfl, (List.append_nil _).symm, (List.append_nil _).symm, rfl⟩
  | _ =>
      cases goes
      exact ⟨rfl, (List.append_nil _).symm, (List.append_nil _).symm, rfl⟩

theorem commit_answer {before after : Memory} {message : Message} {result : Except Error Unit}
    (goes : Goes before ⟨.commit message, result⟩ after) :
    result = if before.failCommits then .error (.other ("commit of " ++ message.id ++ " rejected"))
      else .ok () := by
  change before.commit message = _ at goes
  unfold commit at goes
  split at goes
  next failing =>
    cases goes
    rw [if_pos failing]
  next working =>
    cases goes
    rw [if_neg working]

theorem send_answer {before after : Memory} {record : Record} {result : Except Error Unit}
    (goes : Goes before ⟨.send record, result⟩ after) :
    result = if before.failSends then .error (sendRefused record.topic) else .ok () := by
  change before.send record = _ at goes
  unfold send at goes
  split at goes
  next failing =>
    cases goes
    rw [if_pos failing]
  next working =>
    cases goes
    rw [if_neg working]

/-! ## Over all calls -/

theorem ofTopic_append (topic : String) (early late : List Message) :
    ofTopic topic (early ++ late) = ofTopic topic early ++ ofTopic topic late :=
  List.filter_append early late

theorem mem_ofTopic {topic : String} {message : Message} {messages : List Message} :
    message ∈ ofTopic topic messages ↔ message ∈ messages ∧ message.topic = topic := by
  rw [ofTopic, List.mem_filter, decide_eq_true_iff]

theorem ofTopic_eq_nil {topic : String} {messages : List Message}
    (others : ∀ message ∈ messages, message.topic ≠ topic) : ofTopic topic messages = [] :=
  List.filter_eq_nil_iff.mpr fun message member => by simpa using others message member

theorem ofTopic_singleton_self (message : Message) :
    ofTopic message.topic [message] = [message] :=
  List.filter_cons_of_pos (decide_eq_true rfl)

/-- Among messages that are all different, to leave one out leaves the others. -/
theorem filter_ne_middle {early late : List Message} {message : Message}
    (distinct : (early ++ message :: late).Nodup) :
    (early ++ message :: late).filter (· ≠ message) = early ++ late := by
  have apart := List.nodup_middle.mp distinct
  have others : ∀ other ∈ early ++ late, decide (other ≠ message) = true := by
    intro other member
    refine decide_eq_true ?_
    rintro rfl
    exact (List.nodup_cons.mp apart).1 member
  rw [List.filter_append, List.filter_cons_of_neg (by simp), ← List.filter_append,
    List.filter_eq_self.mpr others]

/-- What a broker holds of the messages, after some calls. -/
structure Holds (deeds : List Deed) (memory : Memory) : Prop where
  counts : ∀ topic, count topic memory.counts = (ofTopic topic (pushed deeds)).length
  below : ∀ message ∈ pushed deeds, message.offset < count message.topic memory.counts
  distinct : (pushed deeds).Nodup
  queue : memory.queue = waiting deeds
  order : ∀ topic,
    ofTopic topic (delivered deeds) ++ ofTopic topic memory.queue = ofTopic topic (pushed deeds)
  once : (delivered deeds).Nodup
  total : (delivered deeds).length + memory.queue.length = (pushed deeds).length

namespace Holds

variable {deeds : List Deed} {before after : Memory} {deed : Deed}

theorem mem_pushed (holds : Holds deeds before) {message : Message}
    (member : message ∈ delivered deeds) : message ∈ pushed deeds := by
  have there := List.mem_append_left (ofTopic message.topic before.queue)
    (mem_ofTopic.mpr ⟨member, rfl⟩)
  rw [holds.order] at there
  exact (mem_ofTopic.mp there).1

/-- The next offset of its topic tells a message from all others. -/
theorem entered (holds : Holds deeds before) (topic : String) (key : Option String)
    (payload : ByteArray) (headers : Headers)
    (queue : after.queue = before.queue ++
      [Memory.entered topic key payload headers (count topic before.counts)])
    (counts : after.counts = bump topic before.counts) :
    Holds (deeds ++ [⟨.push topic key payload headers, count topic before.counts⟩]) after := by
  generalize made : Memory.entered topic key payload headers (count topic before.counts) = message
    at queue
  have named : message.topic = topic := made ▸ rfl
  have placed : message.offset = count topic before.counts := made ▸ rfl
  have pushing : pushed (deeds ++ [⟨.push topic key payload headers, count topic before.counts⟩]) =
      pushed deeds ++ [message] := by
    rw [pushed, filterMap_snoc, Deed.pushed?, made]
    rfl
  have delivering : delivered
      (deeds ++ [⟨.push topic key payload headers, count topic before.counts⟩]) =
        delivered deeds := by
    rw [delivered, filterMap_snoc]
    exact List.append_nil _
  have new : message ∉ pushed deeds := by
    intro member
    have less := holds.below message member
    rw [placed, named] at less
    exact Int.lt_irrefl _ less
  constructor
  · intro other
    rw [counts, count_bump, pushing, ofTopic_append, List.length_append, ← holds.counts other]
    split
    next same =>
      rw [← same, ← named, ofTopic_singleton_self, List.length_singleton]
    next differs =>
      rw [ofTopic_eq_nil (by simpa [named] using differs), List.length_nil, Nat.add_zero]
  · rw [pushing, counts]
    intro other member
    rw [count_bump]
    rcases List.mem_append.mp member with old | last
    · have less := holds.below other old
      split <;> omega
    · cases List.mem_singleton.mp last
      rw [placed, named, if_pos rfl]
      omega
  · rw [pushing]
    exact holds.distinct.append (List.nodup_singleton _) (List.disjoint_singleton.mpr new)
  · have kept : [message].filter (fun other => other ∉ delivered deeds) = [message] :=
      List.filter_cons_of_pos (decide_eq_true (mt holds.mem_pushed new))
    rw [queue, holds.queue, waiting, waiting, pushing, delivering, List.filter_append, kept]
  · intro other
    rw [queue, delivering, pushing, ofTopic_append, ofTopic_append, ← List.append_assoc,
      holds.order other]
  · rw [delivering]
    exact holds.once
  · rw [queue, delivering, pushing, List.length_append, List.length_append, ← Nat.add_assoc,
      holds.total]

/-- A message that waits was not delivered, and is the first that waits in its topic. -/
theorem taken (holds : Holds deeds before) (earlier later : List Message) (message : Message)
    (place : before.queue = earlier ++ message :: later)
    (unwanted : ∀ other ∈ earlier, other.topic ≠ message.topic)
    (queue : after.queue = earlier ++ later) (counts : after.counts = before.counts) :
    Holds (deeds ++ [⟨.poll, .ok (some message)⟩]) after := by
  have pushing : pushed (deeds ++ [⟨.poll, .ok (some message)⟩]) = pushed deeds := by
    rw [pushed, filterMap_snoc]
    exact List.append_nil _
  have delivering : delivered (deeds ++ [⟨.poll, .ok (some message)⟩]) =
      delivered deeds ++ [message] := by
    rw [delivered, filterMap_snoc]
    rfl
  have inside : message ∈ waiting deeds := by
    rw [← holds.queue, place]
    exact List.mem_append_right _ List.mem_cons_self
  have new : message ∉ delivered deeds := of_decide_eq_true (List.mem_filter.mp inside).2
  constructor
  · rw [counts, pushing]
    exact holds.counts
  · rw [counts, pushing]
    exact holds.below
  · rw [pushing]
    exact holds.distinct
  · have apart : (earlier ++ message :: later).Nodup := by
      rw [← place, holds.queue]
      exact holds.distinct.filter _
    rw [queue, ← filter_ne_middle apart, ← place, holds.queue, waiting, waiting, pushing,
      delivering, List.filter_filter]
    refine List.filter_congr fun other _ => ?_
    simp [not_or, and_comm]
  · intro topic
    rw [queue, delivering, pushing, ← holds.order topic, place, ofTopic_append, ofTopic_append,
      ofTopic_append, List.append_assoc]
    congr 1
    by_cases own : message.topic = topic
    · subst own
      rw [ofTopic_eq_nil unwanted]
      exact (ofTopic_append _ [message] later).symm
    · have same : ofTopic topic (message :: later) = ofTopic topic later :=
        List.filter_cons_of_neg (by simpa using own)
      rw [same, ofTopic_eq_nil (by simpa using own)]
      rfl
  · rw [delivering]
    exact holds.once.append (List.nodup_singleton _) (List.disjoint_singleton.mpr new)
  · have total := holds.total
    rw [queue, delivering, pushing, ← total, place]
    simp only [List.length_append, List.length_cons, List.length_nil]
    omega

theorem still (holds : Holds deeds before) (quiet : deed.pushed? = none)
    (silent : deed.delivered? = none) (queue : after.queue = before.queue)
    (counts : after.counts = before.counts) : Holds (deeds ++ [deed]) after := by
  have pushing : pushed (deeds ++ [deed]) = pushed deeds := by
    rw [pushed, filterMap_snoc, quiet]
    exact List.append_nil _
  have delivering : delivered (deeds ++ [deed]) = delivered deeds := by
    rw [delivered, filterMap_snoc, silent]
    exact List.append_nil _
  have waits : waiting (deeds ++ [deed]) = waiting deeds := by
    rw [waiting, waiting, pushing, delivering]
  constructor
  · rw [counts, pushing]
    exact holds.counts
  · rw [counts, pushing]
    exact holds.below
  · rw [pushing]
    exact holds.distinct
  · rw [queue, waits]
    exact holds.queue
  · rw [queue, pushing, delivering]
    exact holds.order
  · rw [delivering]
    exact holds.once
  · rw [queue, pushing, delivering]
    exact holds.total

theorem step (holds : Holds deeds before) (goes : Goes before deed after) :
    Holds (deeds ++ [deed]) after := by
  cases goes.shifts with
  | entered topic key payload headers queue counts =>
      exact holds.entered topic key payload headers queue counts
  | taken earlier later message place unwanted queue counts =>
      exact holds.taken earlier later message place unwanted queue counts
  | still quiet silent queue counts => exact holds.still quiet silent queue counts

end Holds

/-- What a broker holds after some calls: the messages, the mode that was set, and the logs. -/
structure Accounts (deeds : List Deed) (memory : Memory) : Prop where
  holds : Holds deeds memory
  mode : memory.mode = modeAfter deeds
  committed : memory.committed = deeds.filterMap Deed.committed?
  sent : memory.sent = deeds.filterMap Deed.sent?
  failedCommits : memory.failedCommits = (deeds.filterMap Deed.rejected?).length

theorem accounts_new : Accounts [] {} :=
  { holds :=
      { counts := fun _ => rfl
        below := fun _ member => by cases member
        distinct := List.nodup_nil
        queue := rfl
        order := fun _ => rfl
        once := List.nodup_nil
        total := rfl }
    mode := rfl
    committed := rfl
    sent := rfl
    failedCommits := rfl }

theorem Accounts.step {deeds : List Deed} {before after : Memory} {deed : Deed}
    (accounts : Accounts deeds before) (goes : Goes before deed after) :
    Accounts (deeds ++ [deed]) after := by
  have logs := goes.logs
  constructor
  · exact accounts.holds.step goes
  · rw [logs.mode, accounts.mode, modeAfter, modeAfter, List.foldl_append]
    rfl
  · rw [logs.committed, accounts.committed, filterMap_snoc]
  · rw [logs.sent, accounts.sent, filterMap_snoc]
  · rw [logs.failedCommits, accounts.failedCommits, filterMap_snoc, List.length_append]

theorem accounts_of_run {deeds : List Deed} {memory : Memory} (run : Run Goes {} deeds memory) :
    Accounts deeds memory :=
  run.invariant accounts_new Accounts.step

/-- What can be relied on after some calls of a broker, with the answers that they got. -/
structure Faithful (deeds : List Deed) (memory : Memory) : Prop where
  /-- Each topic counts its own messages, from zero on. -/
  offsets : ∀ early topic key payload headers (offset : Nat) late,
    deeds = early ++ ⟨.push topic key payload headers, offset⟩ :: late →
    offset = (ofTopic topic (pushed early)).length
  /-- A poll gets the earliest message that waits in a topic subscribed to, unless what is set
  hinders it; and then it gets none. -/
  polls : ∀ early (result : Except Error (Option Message)) late,
    deeds = early ++ ⟨.poll, result⟩ :: late → Polled (modeAfter early) (waiting early) result
  /-- Commits are rejected just while this is set. -/
  commits : ∀ early message (result : Except Error Unit) late,
    deeds = early ++ ⟨.commit message, result⟩ :: late →
    result = if (modeAfter early).failCommits
      then .error (.other ("commit of " ++ message.id ++ " rejected")) else .ok ()
  /-- Records are rejected just while this is set. -/
  sends : ∀ early record (result : Except Error Unit) late,
    deeds = early ++ ⟨.send record, result⟩ :: late →
    result = if (modeAfter early).failSends then .error (sendRefused record.topic) else .ok ()
  /-- In each topic the first messages that were pushed are delivered, in this order. -/
  order : ∀ topic, ofTopic topic (delivered deeds) <+: ofTopic topic (pushed deeds)
  /-- No message is delivered twice. -/
  once : (delivered deeds).Nodup
  /-- The others wait, in the order in which they were pushed. -/
  waits : memory.queue = waiting deeds
  /-- So many wait as were pushed and not delivered. -/
  pending : (delivered deeds).length + memory.queue.length = (pushed deeds).length
  /-- The commits that were accepted are logged, and no others. -/
  committed : memory.committed = deeds.filterMap Deed.committed?
  /-- The records that were accepted are logged, and no others. -/
  sent : memory.sent = deeds.filterMap Deed.sent?
  /-- The commits that were rejected are counted. -/
  failedCommits : memory.failedCommits = (deeds.filterMap Deed.rejected?).length

/-- A broker in memory is a faithful queue for each of its topics, whatever calls it gets. -/
theorem queue_faithful (calls : List Call) :
    Faithful (carryOut calls).1 (carryOut calls).2 := by
  have run := run_carryOut calls
  generalize (carryOut calls).1 = deeds, (carryOut calls).2 = memory at run
  have accounts := accounts_of_run run
  constructor
  · intro early topic key payload headers offset late place
    obtain ⟨before, after, earlier, goes⟩ := run.split place
    cases goes
    exact (accounts_of_run earlier).holds.counts topic
  · intro early result late place
    obtain ⟨before, after, earlier, goes⟩ := run.split place
    have stands := accounts_of_run earlier
    rw [← stands.mode, ← stands.holds.queue]
    exact (polled_of_poll goes).1
  · intro early message result late place
    obtain ⟨before, after, earlier, goes⟩ := run.split place
    rw [← (accounts_of_run earlier).mode]
    exact commit_answer goes
  · intro early record result late place
    obtain ⟨before, after, earlier, goes⟩ := run.split place
    rw [← (accounts_of_run earlier).mode]
    exact send_answer goes
  · exact fun topic => ⟨_, accounts.holds.order topic⟩
  · exact accounts.holds.once
  · exact accounts.holds.queue
  · exact accounts.holds.total
  · exact accounts.committed
  · exact accounts.sent
  · exact accounts.failedCommits

/-- A message is taken out of the midst of the queue once its topic is subscribed to. -/
example :
    let push (topic : String) : Call := .push topic none ByteArray.empty []
    let calls : List Call := [push "jobs", push "other", push "jobs", .subscribe ["other"], .poll,
      .poll, .subscribe ["jobs"], .pause, .poll, .resume, .poll]
    (delivered (carryOut calls).1).map Message.id = ["other-0-0", "jobs-0-0"] ∧
      (carryOut calls).2.queue.map Message.id = ["jobs-0-1"] := by
  decide +kernel

end Scribe.Broker.Memory
