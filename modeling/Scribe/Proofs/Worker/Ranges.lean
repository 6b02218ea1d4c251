import Scribe.Proofs.Config.Settings
import Scribe.Proofs.Stream.Polling
import Scribe.Proofs.Text.Numeral
import Scribe.Worker.Startup

/-!
# Ranges of settings

A number among the settings only has to fit 64 bits to be admitted, while the part of a worker
that it is for may work with smaller numbers alone: a window remembers for a thousand years at
most, a queue has room for no more messages than there are permits, and how long entries have
to lie is doubled as a span and sent as a signed number of milliseconds.  Here it is said from
which number on an admitted setting breaks its part.
-/

namespace Scribe.Worker

open Scribe.Config
open Scribe.Text

/-! ## The parts and their ranges -/

/-- The greatest room that a queue can be made with. -/
def greatestRoom : Nat := 0x1fffffffffffffff

/-- The parts that are made of settings can be made and compute what they mean to. -/
structure Sound (settings : Settings) (drawn : String) : Prop where
  window : ∃ window, Dedup.Window.of settings.dedupLifetime settings.dedupCapacity = .ok window
  room : (limitsOf settings).capacity ≤ greatestRoom
  interval : (consumerOf settings drawn).claimInterval ≤ Time.Span.greatest
  threshold : (consumerOf settings drawn).minIdle = (consumerOf settings drawn).claimIdle.millis

theorem window_of_seconds_iff (seconds capacity : Nat) :
    (∃ window, Dedup.Window.of (Time.Span.ofSeconds seconds) capacity = .ok window) ↔
      seconds ≤ 1000 * 365 * 86400 := by
  have fits : ¬ Dedup.longestLifetime.nanos < (Time.Span.ofSeconds seconds).nanos ↔
      seconds ≤ 1000 * 365 * 86400 := by
    change ¬ 1000 * 365 * 86400 * 1000000000 < seconds * 1000000000 ↔ _
    omega
  rw [← fits]
  constructor
  · rintro ⟨window, built⟩ beyond
    rw [Dedup.Window.of, if_pos beyond] at built
    cases built
  · intro inside
    exact ⟨_, if_neg inside⟩

theorem claimInterval_le_iff (consumer : Stream.Consumer) (seconds : Nat)
    (same : consumer.claimIdle = Time.Span.ofSeconds seconds) :
    consumer.claimInterval ≤ Time.Span.greatest ↔ 2 * seconds ≤ max64 := by
  have greatest : Time.Span.greatest.nanos = 18446744073709551615999999999 := by
    simp [Time.Span.greatest, Time.Span.perSecond]
  change 2 * consumer.claimIdle.nanos ≤ Time.Span.greatest.nanos ↔ _
  rw [same, greatest]
  change 2 * (seconds * 1000000000) ≤ _ ↔ _
  simp only [max64]
  omega

/-- The idle time in milliseconds as it is sent is the true one as long as it fits. -/
theorem minIdle_eq_iff (consumer : Stream.Consumer) (seconds : Nat)
    (same : consumer.claimIdle = Time.Span.ofSeconds seconds) :
    consumer.minIdle = consumer.claimIdle.millis ↔ 1000 * seconds ≤ maxSigned64 := by
  have millis : consumer.claimIdle.millis = seconds * 1000 := by
    rw [same]
    change seconds * 1000000000 / 1000000 = _
    omega
  rw [consumer.minIdle_eq_millis_iff, millis]
  omega

/-! ## Settings and their variables -/

/-- The numbers that the settings of these parts were made of. -/
theorem numbers_of_load {environment : Environment} {settings : Settings}
    (loaded : Settings.load environment = .ok settings) :
    ∃ idle room lifetime,
      environment.read "CLAIM_IDLE_SECS" (.natural max64) 300 = .ok idle ∧
      environment.read "WORKER_QUEUE_MAX" (.natural max64) 4 = .ok room ∧
      environment.read "DEDUP_TTL_SECS" (.natural max64) 3600 = .ok lifetime ∧
      settings.claimIdle = Time.Span.ofSeconds (max idle 1) ∧
      settings.queueCapacity = max room 1 ∧
      settings.dedupLifetime = Time.Span.ofSeconds lifetime := by
  have made := Setting.read_of_load loaded
  have idleMember : .number "CLAIM_IDLE_SECS" max64 300 (fun seconds => .ofSeconds (max seconds 1))
    Settings.claimIdle ∈ Setting.all := by simp [Setting.all]
  have roomMember : .number "WORKER_QUEUE_MAX" max64 4 (max · 1) Settings.queueCapacity ∈
    Setting.all := by simp [Setting.all]
  have lifetimeMember : .number "DEDUP_TTL_SECS" max64 3600 Time.Span.ofSeconds
    Settings.dedupLifetime ∈ Setting.all := by simp [Setting.all]
  obtain ⟨idle, readIdle, idleEq⟩ := of_map_eq_ok (made _ idleMember)
  obtain ⟨room, readRoom, roomEq⟩ := of_map_eq_ok (made _ roomMember)
  obtain ⟨lifetime, readLifetime, lifetimeEq⟩ := of_map_eq_ok (made _ lifetimeMember)
  exact ⟨idle, room, lifetime, readIdle, readRoom, readLifetime, idleEq.symm, roomEq.symm,
    lifetimeEq.symm⟩

/-! ## Variables on their own -/

/-- An environment in which one variable is set, to a number. -/
def numberAlone (name : String) (value : Nat) : Environment :=
  { bindings := [(name, utf8 (decimal value))] }

theorem get?_numberAlone {name other : String} (value : Nat) (differs : other ≠ name) :
    (numberAlone name value).get? other = none := by
  have unlike : (other == name) = false := beq_false_of_ne differs
  simp [numberAlone, Environment.get?, List.lookup_cons, unlike]

theorem read_numberAlone {α : Type} {name other : String} (value : Nat) (reader : ValueReader α)
    (fallback : α) (differs : other ≠ name) :
    (numberAlone name value).read other reader fallback = .ok fallback := by
  rw [Environment.read, get?_numberAlone value differs]

theorem read_numberAlone_self {name : String} {value limit : Nat} (fallback : Nat)
    (fits : value ≤ limit) :
    (numberAlone name value).read name (.natural limit) fallback = .ok value := by
  have text : (numberAlone name value).get? name = some (decimal value) := by
    simp [numberAlone, Environment.get?]
  rw [Environment.read, text]
  simp [decimal, trimChars_decimalChars, ValueReader.natural, readNatural_decimalChars fits]

theorem streamAddress_numberAlone {name : String} (value : Nat) (differs : "REDIS_URL" ≠ name) :
    (numberAlone name value).streamAddress = .ok "redis://127.0.0.1:6379" := by
  have known : "redis://127.0.0.1:6379".startsWith "redis://" = true := by decide +kernel
  simp only [Environment.streamAddress, Environment.textOr, get?_numberAlone value differs,
    Option.getD_none, known, Bool.true_or, if_true]

/-- The variables of these parts, with the greatest numbers that their parts work with. -/
def rangedVariables : List (String × Nat) :=
  [("CLAIM_IDLE_SECS", maxSigned64 / 1000), ("WORKER_QUEUE_MAX", greatestRoom),
    ("DEDUP_TTL_SECS", 1000 * 365 * 86400)]

/-- No number of 64 bits is refused. -/
theorem load_numberAlone {name : String} {greatest : Nat}
    (ranged : (name, greatest) ∈ rangedVariables) {value : Nat} (fits : value ≤ max64) :
    ∃ settings, Settings.load (numberAlone name value) = .ok settings := by
  simp only [rangedVariables, List.mem_cons, Prod.mk.injEq, List.not_mem_nil, or_false] at ranged
  rcases ranged with ⟨rfl, _⟩ | ⟨rfl, _⟩ | ⟨rfl, _⟩
  all_goals
    simp (disch := decide) only [Settings.load, read_numberAlone, read_numberAlone_self _ fits,
      streamAddress_numberAlone, Settings.pauseVariable]
    exact ⟨_, rfl⟩

/-! ## Which settings are sound -/

/-- How the parts that an environment's settings make depend on its numbers. -/
structure Depends (environment : Environment) (settings : Settings) (drawn : String)
    (idle room lifetime : Nat) : Prop where
  readIdle : environment.read "CLAIM_IDLE_SECS" (.natural max64) 300 = .ok idle
  readRoom : environment.read "WORKER_QUEUE_MAX" (.natural max64) 4 = .ok room
  readLifetime : environment.read "DEDUP_TTL_SECS" (.natural max64) 3600 = .ok lifetime
  window : (∃ window,
      Dedup.Window.of settings.dedupLifetime settings.dedupCapacity = .ok window) ↔
    lifetime ≤ 1000 * 365 * 86400
  room : 0 < (limitsOf settings).capacity ∧
    ((limitsOf settings).capacity ≤ greatestRoom ↔ room ≤ greatestRoom)
  interval : (consumerOf settings drawn).claimInterval ≤ Time.Span.greatest ↔
    2 * idle ≤ max64
  threshold : (consumerOf settings drawn).minIdle = (consumerOf settings drawn).claimIdle.millis ↔
    1000 * idle ≤ maxSigned64

theorem depends_of_load {environment : Environment} {settings : Settings}
    (loaded : Settings.load environment = .ok settings) (drawn : String) :
    ∃ idle room lifetime, Depends environment settings drawn idle room lifetime := by
  obtain ⟨idle, room, lifetime, readIdle, readRoom, readLifetime, claimIdle, queueCapacity,
    dedupLifetime⟩ := numbers_of_load loaded
  have capacity : (limitsOf settings).capacity = max (max room 1) 1 := by
    rw [← queueCapacity]
    rfl
  refine ⟨idle, room, lifetime,
    { readIdle, readRoom, readLifetime, window := ?_, room := ?_, interval := ?_,
      threshold := ?_ }⟩
  · rw [dedupLifetime]
    exact window_of_seconds_iff lifetime settings.dedupCapacity
  · rw [capacity]
    simp only [greatestRoom]
    omega
  · rw [claimInterval_le_iff (consumerOf settings drawn) (max idle 1) claimIdle]
    simp only [max64]
    omega
  · rw [minIdle_eq_iff (consumerOf settings drawn) (max idle 1) claimIdle]
    simp only [maxSigned64]
    omega

/-- All parts are sound together exactly if each number is in its range. -/
theorem Depends.sound_iff {environment : Environment} {settings : Settings} {drawn : String}
    {idle room lifetime : Nat}
    (depends : Depends environment settings drawn idle room lifetime) :
    Sound settings drawn ↔
      1000 * idle ≤ maxSigned64 ∧ room ≤ greatestRoom ∧ lifetime ≤ 1000 * 365 * 86400 := by
  constructor
  · intro sound
    exact ⟨depends.threshold.mp sound.threshold, depends.room.2.mp sound.room,
      depends.window.mp sound.window⟩
  · rintro ⟨idleFits, roomFits, lifetimeFits⟩
    have doubled : 2 * idle ≤ max64 := by
      simp only [max64, maxSigned64] at idleFits ⊢
      omega
    exact
      { window := depends.window.mpr lifetimeFits
        room := depends.room.2.mpr roomFits
        interval := depends.interval.mpr doubled
        threshold := depends.threshold.mpr idleFits }

/-- Each of the variables alone breaks its part from one number on, and is admitted all the
same. -/
theorem sound_numberAlone_iff {name : String} {greatest : Nat}
    (ranged : (name, greatest) ∈ rangedVariables) {value : Nat} (fits : value ≤ max64)
    (drawn : String) :
    ∃ settings, Settings.load (numberAlone name value) = .ok settings ∧
      (Sound settings drawn ↔ value ≤ greatest) := by
  obtain ⟨settings, loaded⟩ := load_numberAlone ranged fits
  obtain ⟨idle, room, lifetime, depends⟩ := depends_of_load loaded drawn
  refine ⟨settings, loaded, ?_⟩
  rw [depends.sound_iff]
  have readIdle := depends.readIdle
  have readRoom := depends.readRoom
  have readLifetime := depends.readLifetime
  simp only [rangedVariables, List.mem_cons, Prod.mk.injEq, List.not_mem_nil, or_false] at ranged
  rcases ranged with ⟨rfl, rfl⟩ | ⟨rfl, rfl⟩ | ⟨rfl, rfl⟩
  all_goals
    simp (disch := decide) only [read_numberAlone, read_numberAlone_self _ fits,
      Except.ok.injEq] at readIdle readRoom readLifetime
    simp only [maxSigned64, greatestRoom, ← readIdle, ← readRoom, ← readLifetime]
    omega

theorem exists_unsound {name : String} {greatest : Nat}
    (ranged : (name, greatest) ∈ rangedVariables) {value : Nat} (fits : value ≤ max64)
    (beyond : greatest < value) :
    ∃ settings, Settings.load (numberAlone name value) = .ok settings ∧
      ¬ Sound settings "worker" := by
  obtain ⟨settings, loaded, sound⟩ := sound_numberAlone_iff ranged fits "worker"
  exact ⟨settings, loaded, fun here => Nat.not_le_of_lt beyond (sound.mp here)⟩

/-- The parts that are made of admitted settings are sound exactly if the numbers that the
settings were made of are in the ranges of these parts. -/
theorem admitted_settings_sound_iff (environment : Environment) (settings : Settings)
    (drawn : String) (loaded : Settings.load environment = .ok settings) :
    ∃ idle room lifetime, Depends environment settings drawn idle room lifetime ∧
      (Sound settings drawn ↔
        1000 * idle ≤ maxSigned64 ∧ room ≤ greatestRoom ∧ lifetime ≤ 1000 * 365 * 86400) := by
  obtain ⟨idle, room, lifetime, depends⟩ := depends_of_load loaded drawn
  exact ⟨idle, room, lifetime, depends, depends.sound_iff⟩

/-- A lifetime of a thousand years and a second is admitted, and no window has it. -/
theorem admitted_settings_sound_iff_lifetime :
    ∃ settings, Settings.load (numberAlone "DEDUP_TTL_SECS" 31536000001) = .ok settings ∧
      ∃ idle room lifetime,
        Depends (numberAlone "DEDUP_TTL_SECS" 31536000001) settings "worker" idle room lifetime ∧
        (Sound settings "worker" ↔
          1000 * idle ≤ maxSigned64 ∧ room ≤ greatestRoom ∧ lifetime ≤ 1000 * 365 * 86400) := by
  have ranged : ("DEDUP_TTL_SECS", 1000 * 365 * 86400) ∈ rangedVariables := by decide
  have fits : 31536000001 ≤ max64 := by decide
  obtain ⟨settings, loaded⟩ := load_numberAlone ranged fits
  exact ⟨settings, loaded, admitted_settings_sound_iff _ settings "worker" loaded⟩

/-- Each of the three variables alone makes settings that are admitted and not sound. -/
theorem unsound_settings_admitted :
    (∃ settings, Settings.load (numberAlone "CLAIM_IDLE_SECS" 9223372036854776) = .ok settings ∧
      ¬ Sound settings "worker") ∧
    (∃ settings, Settings.load (numberAlone "WORKER_QUEUE_MAX" 0x2000000000000000) = .ok settings ∧
      ¬ Sound settings "worker") ∧
    (∃ settings, Settings.load (numberAlone "DEDUP_TTL_SECS" 31536000001) = .ok settings ∧
      ¬ Sound settings "worker") := by
  have idle : ("CLAIM_IDLE_SECS", maxSigned64 / 1000) ∈ rangedVariables := by decide
  have room : ("WORKER_QUEUE_MAX", greatestRoom) ∈ rangedVariables := by decide
  have lifetime : ("DEDUP_TTL_SECS", 1000 * 365 * 86400) ∈ rangedVariables := by decide
  refine ⟨?_, ?_, ?_⟩
  · exact exists_unsound idle (by decide) (by decide)
  · exact exists_unsound room (by decide) (by decide)
  · exact exists_unsound lifetime (by decide) (by decide)

end Scribe.Worker
