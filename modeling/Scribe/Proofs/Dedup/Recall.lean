import Mathlib.Data.Finset.Card
import Scribe.Proofs.Dedup.Window
import Scribe.Proofs.Run

/-!
# What a window of completed jobs remembers

A window keeps a queue: an id that is inserted goes to its end, what is too old leaves it, and
what is too much leaves it at the front.  All this comes to a simple rule about the past.  An id
is remembered as long as its last insertion is not too old and, since then, fewer other ids were
inserted than the window has room for.

To look an id up, or to count, leaves no trace in anything that is answered later.
-/

namespace Scribe.Dedup

/-! ## Insertions and the last of each id -/

/-- Of some insertions the last one of each id, in order. -/
def latest : List Entry → List Entry
  | [] => []
  | entry :: later =>
      if entry.id ∈ later.map Entry.id then latest later else entry :: latest later

/-- Take an id to the end, be it there already or not. -/
def renew (entry : Entry) (entries : List Entry) : List Entry :=
  entries.filter (fun other => other.id != entry.id) ++ [entry]

/-- The last entries of a list, as many as there is room for. -/
def newest (capacity : Nat) (entries : List Entry) : List Entry :=
  entries.drop (entries.length - capacity)

theorem latest_append (early late : List Entry) :
    latest (early ++ late) =
      (latest early).filter (fun entry => entry.id ∉ late.map Entry.id) ++ latest late := by
  induction early with
  | nil => rfl
  | cons entry rest ih =>
      rw [List.cons_append, latest, latest, ih, List.map_append]
      by_cases again : entry.id ∈ rest.map Entry.id
      · rw [if_pos (List.mem_append_left _ again), if_pos again]
      · rw [if_neg again]
        by_cases later : entry.id ∈ late.map Entry.id
        · rw [if_pos (List.mem_append_right _ later),
            List.filter_cons_of_neg (by simpa using later)]
        · rw [if_neg (by simp only [List.mem_append, not_or]; exact ⟨again, later⟩),
            List.filter_cons_of_pos (by simpa using later), List.cons_append]

theorem latest_snoc (earlier : List Entry) (entry : Entry) :
    latest (earlier ++ [entry]) = renew entry (latest earlier) := by
  rw [latest_append, renew]
  congr 1
  refine List.filter_congr fun other _ => ?_
  rw [Bool.eq_iff_iff, decide_eq_true_iff, bne_iff_ne, List.map_cons, List.map_nil,
    List.mem_singleton]

theorem latest_sublist (entries : List Entry) : (latest entries).Sublist entries := by
  induction entries with
  | nil => exact .slnil
  | cons entry rest ih =>
      rw [latest]
      split
      · exact ih.cons entry
      · exact ih.cons_cons entry

theorem mem_ids_latest {entries : List Entry} {id : String} :
    id ∈ (latest entries).map Entry.id ↔ id ∈ entries.map Entry.id := by
  induction entries with
  | nil => rfl
  | cons entry rest ih =>
      rw [latest]
      split
      next again =>
        rw [ih, List.map_cons, List.mem_cons]
        constructor
        · exact Or.inr
        · rintro (rfl | later)
          · exact again
          · exact later
      next => rw [List.map_cons, List.map_cons, List.mem_cons, List.mem_cons, ih]

theorem nodup_ids_latest (entries : List Entry) : ((latest entries).map Entry.id).Nodup := by
  induction entries with
  | nil => exact List.nodup_nil
  | cons entry rest ih =>
      rw [latest]
      split
      · exact ih
      next once => exact List.nodup_cons.mpr ⟨mt mem_ids_latest.mp once, ih⟩

/-- There are as many last insertions as there are different ids. -/
theorem length_latest (entries : List Entry) :
    (latest entries).length = (entries.map Entry.id).toFinset.card := by
  have same : ((latest entries).map Entry.id).toFinset = (entries.map Entry.id).toFinset := by
    ext id
    rw [List.mem_toFinset, List.mem_toFinset]
    exact mem_ids_latest
  rw [← same, List.toFinset_card_of_nodup (nodup_ids_latest entries), List.length_map]

/-- The last insertion of an id has just the last insertions that come after it behind it. -/
theorem latest_split (early : List Entry) {late : List Entry} {entry : Entry}
    (last : entry.id ∉ late.map Entry.id) :
    ∃ front, latest (early ++ entry :: late) = front ++ entry :: latest late := by
  rw [latest_append, latest, if_neg last]
  exact ⟨_, rfl⟩

theorem exists_split_of_mem_latest {entries : List Entry} {entry : Entry}
    (member : entry ∈ latest entries) :
    ∃ early late, entries = early ++ entry :: late ∧ entry.id ∉ late.map Entry.id := by
  induction entries with
  | nil => cases member
  | cons first rest ih =>
      rw [latest] at member
      split at member
      next =>
        obtain ⟨early, late, rfl, last⟩ := ih member
        exact ⟨first :: early, late, rfl, last⟩
      next once =>
        rcases List.mem_cons.mp member with rfl | later
        · exact ⟨[], rest, rfl, once⟩
        · obtain ⟨early, late, rfl, last⟩ := ih later
          exact ⟨first :: early, late, rfl, last⟩

/-! ## The newest entries -/

theorem newest_of_length_le {capacity : Nat} {entries : List Entry}
    (fits : entries.length ≤ capacity) : newest capacity entries = entries := by
  rw [newest, Nat.sub_eq_zero_of_le fits, List.drop_zero]

theorem length_newest_le (capacity : Nat) (entries : List Entry) :
    (newest capacity entries).length ≤ capacity := by
  rw [newest, List.length_drop]
  omega

/-- What lies before enough entries does not count. -/
theorem newest_append {capacity : Nat} {front entries : List Entry}
    (enough : capacity ≤ entries.length) :
    newest capacity (front ++ entries) = newest capacity entries := by
  have beyond : (front ++ entries).length - capacity =
      front.length + (entries.length - capacity) := by
    rw [List.length_append]
    omega
  rw [newest, beyond, List.drop_length_add_append, newest]

theorem newest_cons (capacity : Nat) (entry : Entry) (rest : List Entry) :
    newest capacity (entry :: rest) =
      if rest.length < capacity then entry :: rest else newest capacity rest := by
  split
  next room => exact newest_of_length_le room
  next full =>
    change newest capacity ([entry] ++ rest) = newest capacity rest
    exact newest_append (Nat.le_of_not_lt full)

/-- Where with an entry all later ones are kept, it makes no difference whether the others are
left out before or after. -/
theorem newest_filter {keep : Entry → Bool} {entries : List Entry} (capacity : Nat)
    (upward : entries.Pairwise fun one other => keep one = true → keep other = true) :
    newest capacity (entries.filter keep) = (newest capacity entries).filter keep := by
  induction upward with
  | nil => simp [newest]
  | @cons entry rest later _ ih =>
      by_cases kept : keep entry = true
      · have all : ∀ other ∈ entry :: rest, keep other = true :=
          List.forall_mem_cons.mpr ⟨kept, fun other member => later other member kept⟩
        rw [List.filter_eq_self.mpr all, List.filter_eq_self.mpr]
        exact fun other member => all other (List.mem_of_mem_drop member)
      · rw [List.filter_cons_of_neg kept, ih, newest_cons]
        split
        next room =>
          rw [List.filter_cons_of_neg kept, newest_of_length_le (Nat.le_of_lt room)]
        next => rfl

/-- An id is among the newest exactly if not too many others came after it. -/
theorem mem_newest_latest_iff {capacity : Nat} {entries : List Entry} {entry : Entry} :
    entry ∈ newest capacity (latest entries) ↔
      ∃ early late, entries = early ++ entry :: late ∧ entry.id ∉ late.map Entry.id ∧
        (late.map Entry.id).toFinset.card < capacity := by
  constructor
  · intro member
    obtain ⟨early, late, rfl, last⟩ := exists_split_of_mem_latest (List.mem_of_mem_drop member)
    refine ⟨early, late, rfl, last, Nat.lt_of_not_le fun full => ?_⟩
    rw [← length_latest] at full
    obtain ⟨front, split⟩ := latest_split early last
    rw [split, ← List.singleton_append, ← List.append_assoc, newest_append full] at member
    exact last (mem_ids_latest.mp (List.mem_map_of_mem (List.mem_of_mem_drop member)))
  · rintro ⟨early, late, rfl, last, room⟩
    rw [← length_latest] at room
    obtain ⟨front, split⟩ := latest_split early last
    have place : (front ++ entry :: latest late).length - capacity ≤ front.length := by
      rw [List.length_append, List.length_cons]
      omega
    rw [split, newest, List.drop_append_of_le_length place]
    exact List.mem_append_right _ List.mem_cons_self

/-- One insertion more pushes out no other id than the oldest one. -/
theorem newest_renew {capacity : Nat} {entries : List Entry} (entry : Entry)
    (distinct : (entries.map Entry.id).Nodup) :
    newest capacity (renew entry (newest capacity entries)) =
      newest capacity (renew entry entries) := by
  rcases Nat.le_total entries.length capacity with fits | full
  · rw [newest_of_length_le fits]
  · generalize place : entries.length - capacity = beyond
    have split : entries = entries.take beyond ++ newest capacity entries := by
      rw [newest, place, List.take_append_drop]
    have size : (newest capacity entries).length = capacity := by
      rw [newest, List.length_drop]
      omega
    -- Without the id that is inserted, at most one entry is missing, and the new one makes up
    -- for it.
    have missing :
        ((newest capacity entries).filter fun other => other.id == entry.id).length ≤ 1 := by
      have once := List.nodup_iff_count_le_one.mp distinct entry.id
      rw [List.count, List.countP_map, List.countP_eq_length_filter] at once
      exact ((List.drop_sublist _ entries).filter _).length_le.trans once
    have parts := List.length_eq_length_filter_add (l := newest capacity entries)
      fun other => other.id == entry.id
    have enough : capacity ≤ (renew entry (newest capacity entries)).length := by
      rw [renew, List.length_append, List.length_singleton]
      change _ ≤
        ((newest capacity entries).filter fun other => !(other.id == entry.id)).length + 1
      omega
    conv_rhs => rw [split, renew, List.filter_append, List.append_assoc]
    exact (newest_append enough).symm

/-- What is left out in the end may as well be left out before. -/
theorem filter_renew (keep : Entry → Bool) (entry : Entry) (entries : List Entry) :
    (renew entry (entries.filter keep)).filter keep = (renew entry entries).filter keep := by
  simp only [renew, List.filter_append, List.filter_filter]
  congr 1
  refine List.filter_congr fun other _ => ?_
  cases keep other <;> simp

/-! ## Handles and what is done with them -/

/-- A window with its handles, at a time. -/
structure Desk where
  window : Window
  now : Time.Span := ⟨0⟩
  handles : Nat := 1

/-- Something done with a handle, with its answer, or a time that passes. -/
inductive Deed
  | inserted (handle : Nat) (id : String)
  | looked (handle : Nat) (id : String) (found : Bool)
  | counted (handle : Nat) (size : Nat)
  | cloned (handle copy : Nat)
  | waited (span : Time.Span)
deriving DecidableEq, Repr

namespace Desk

/-- All handles are handles to the same window. -/
inductive Goes (desk : Desk) : Deed → Desk → Prop
  | inserted (handle : Nat) (id : String) (valid : handle < desk.handles) :
      Goes desk (.inserted handle id) { desk with window := desk.window.insert desk.now id }
  | looked (handle : Nat) (id : String) (valid : handle < desk.handles) :
      Goes desk (.looked handle id (desk.window.contains desk.now id)) desk
  | counted (handle : Nat) (valid : handle < desk.handles) :
      Goes desk (.counted handle (desk.window.size desk.now)) desk
  | cloned (handle : Nat) (valid : handle < desk.handles) :
      Goes desk (.cloned handle desk.handles) { desk with handles := desk.handles + 1 }
  | waited (span : Time.Span) :
      Goes desk (.waited span) { desk with now := ⟨desk.now.nanos + span.nanos⟩ }

end Desk

/-- Whether something done only asks. -/
def Deed.asks : Deed → Bool
  | .looked _ _ _ => true
  | .counted _ _ => true
  | _ => false

/-! ## The past -/

/-- The time that has passed, and all that was inserted. -/
structure Past where
  now : Time.Span := ⟨0⟩
  insertions : List Entry := []

namespace Past

/-- What becomes of the past by one thing more. -/
def extend (past : Past) : Deed → Past
  | .inserted _ id => { past with insertions := past.insertions ++ [⟨id, past.now⟩] }
  | .waited span => { past with now := ⟨past.now.nanos + span.nanos⟩ }
  | .looked _ _ _ => past
  | .counted _ _ => past
  | .cloned _ _ => past

/-- The past that some deeds come to. -/
def of (deeds : List Deed) : Past :=
  deeds.foldl extend {}

theorem of_snoc (deeds : List Deed) (deed : Deed) :
    of (deeds ++ [deed]) = (of deeds).extend deed := by
  rw [of, List.foldl_append]
  rfl

/-- An id was inserted less than a lifetime ago, and fewer different others than there is room for
were inserted since it was last inserted. -/
def Recalls (past : Past) (lifetime : Time.Span) (capacity : Nat) (id : String) : Prop :=
  ∃ early since late, past.insertions = early ++ ⟨id, since⟩ :: late ∧
    id ∉ late.map Entry.id ∧ past.now.nanos < since.nanos + lifetime.nanos ∧
    (late.map Entry.id).toFinset.card < capacity

end Past

/-! ## A window and its past -/

/-- The entries that are not too old are the newest of the last insertions. -/
structure Reflects (lifetime : Time.Span) (capacity : Nat) (past : Past) (desk : Desk) : Prop where
  lasts : desk.window.lifetime = lifetime
  room : desk.window.capacity = capacity
  now : desk.now = past.now
  settled : ∀ entry ∈ past.insertions, entry.since ≤ past.now
  sorted : past.insertions.Pairwise fun one other => one.since ≤ other.since
  entries : desk.window.entries.filter (desk.window.isLive desk.now) =
    (newest capacity (latest past.insertions)).filter (desk.window.isLive desk.now)

namespace Window

variable {window : Window} {now : Time.Span} {entry : Entry}

theorem isLive_iff :
    window.isLive now entry = true ↔ now.nanos < entry.since.nanos + window.lifetime.nanos :=
  decide_eq_true_iff

/-- What was inserted later is not too old before what was inserted earlier is. -/
theorem isLive_of_le {other : Entry} (later : entry.since ≤ other.since)
    (live : window.isLive now entry = true) : window.isLive now other = true := by
  change entry.since.nanos ≤ other.since.nanos at later
  rw [isLive_iff] at live ⊢
  omega

theorem contains_iff_live {id : String} :
    window.contains now id = true ↔
      id ∈ (window.entries.filter (window.isLive now)).map Entry.id := by
  simp only [contains, List.any_eq_true, Bool.and_eq_true, beq_iff_eq, List.mem_map,
    List.mem_filter]
  constructor
  · rintro ⟨entry, member, same, live⟩
    exact ⟨entry, ⟨member, live⟩, same⟩
  · rintro ⟨entry, ⟨member, live⟩, same⟩
    exact ⟨entry, member, same, live⟩

/-- After an insertion nothing is too old. -/
theorem live_insert (id : String) :
    (window.insert now id).entries.filter (window.isLive now) =
      newest window.capacity ((renew ⟨id, now⟩ window.entries).filter (window.isLive now)) := by
  have live : ∀ entry ∈ (window.insert now id).entries, window.isLive now entry = true :=
    window.isFresh_insert now id
  rw [List.filter_eq_self.mpr live]
  rfl

end Window

namespace Reflects

variable {lifetime : Time.Span} {capacity : Nat} {past : Past} {desk : Desk}

/-- Of entries in the order of their insertion, what comes after one that is not too old is not
too old either. -/
theorem upward {entries : List Entry}
    (sorted : entries.Pairwise fun one other => one.since ≤ other.since) (window : Window)
    (now : Time.Span) :
    entries.Pairwise fun one other =>
      window.isLive now one = true → window.isLive now other = true :=
  sorted.imp Window.isLive_of_le

theorem waited (reflects : Reflects lifetime capacity past desk) (span : Time.Span) :
    Reflects lifetime capacity { past with now := ⟨past.now.nanos + span.nanos⟩ }
      { desk with now := ⟨desk.now.nanos + span.nanos⟩ } where
  lasts := reflects.lasts
  room := reflects.room
  now := by rw [reflects.now]
  settled entry member := Nat.le_add_right_of_le (reflects.settled entry member)
  sorted := reflects.sorted
  entries := by
    -- What is not too old after the wait was not too old before it.
    have still : ∀ entry, desk.window.isLive ⟨desk.now.nanos + span.nanos⟩ entry = true →
        desk.window.isLive desk.now entry = true := by
      intro entry live
      rw [Window.isLive_iff] at live ⊢
      exact Nat.lt_of_le_of_lt (Nat.le_add_right _ _) live
    have twice : ∀ entries : List Entry,
        entries.filter (desk.window.isLive ⟨desk.now.nanos + span.nanos⟩) =
          (entries.filter (desk.window.isLive desk.now)).filter
            (desk.window.isLive ⟨desk.now.nanos + span.nanos⟩) := by
      intro entries
      rw [List.filter_filter]
      refine List.filter_congr fun entry _ => ?_
      rw [Bool.eq_iff_iff, Bool.and_eq_true]
      exact ⟨fun live => ⟨live, still entry live⟩, And.left⟩
    change desk.window.entries.filter _ = _
    rw [twice, reflects.entries, ← twice]

theorem sorted_snoc (reflects : Reflects lifetime capacity past desk) (id : String) :
    (past.insertions ++ [(⟨id, past.now⟩ : Entry)]).Pairwise fun one other =>
      one.since ≤ other.since :=
  List.pairwise_append.mpr ⟨reflects.sorted, List.pairwise_singleton _ _,
    fun entry member _ same => List.mem_singleton.mp same ▸ reflects.settled entry member⟩

theorem inserted (reflects : Reflects lifetime capacity past desk) (id : String) :
    Reflects lifetime capacity { past with insertions := past.insertions ++ [⟨id, past.now⟩] }
      { desk with window := desk.window.insert desk.now id } where
  lasts := reflects.lasts
  room := reflects.room
  now := reflects.now
  settled := List.forall_mem_append.mpr
    ⟨reflects.settled, List.forall_mem_singleton.mpr (Nat.le_refl _)⟩
  sorted := reflects.sorted_snoc id
  entries := by
    let live := desk.window.isLive desk.now
    let kept := newest capacity (latest past.insertions)
    let entry : Entry := ⟨id, desk.now⟩
    have sorted : (renew entry kept).Pairwise fun one other => one.since ≤ other.since := by
      have all := reflects.now ▸ reflects.sorted_snoc id
      refine all.sublist (List.Sublist.append ?_ (List.Sublist.refl _))
      exact List.filter_sublist.trans ((List.drop_sublist _ _).trans (latest_sublist _))
    rw [← reflects.now]
    change (desk.window.insert desk.now id).entries.filter live =
      (newest capacity (latest (past.insertions ++ [entry]))).filter live
    calc (desk.window.insert desk.now id).entries.filter live
      _ = newest capacity ((renew entry desk.window.entries).filter live) := by
          rw [Window.live_insert, reflects.room]
      _ = newest capacity ((renew entry kept).filter live) := by
          rw [← filter_renew, reflects.entries, filter_renew]
      _ = (newest capacity (renew entry kept)).filter live :=
          newest_filter capacity (upward sorted _ _)
      _ = (newest capacity (latest (past.insertions ++ [entry]))).filter live := by
          rw [newest_renew entry (nodup_ids_latest _), latest_snoc]

theorem initially {window : Window} (made : Window.of lifetime capacity = .ok window) :
    Reflects lifetime capacity {} { window } := by
  rw [Window.of] at made
  split at made
  · cases made
  · obtain rfl := Except.ok.inj made
    exact {
      lasts := rfl
      room := rfl
      now := rfl
      settled := fun _ member => nomatch member
      sorted := .nil
      entries := by rw [latest, newest, List.drop_nil] }

theorem goes {deed : Deed} {after : Desk} (reflects : Reflects lifetime capacity past desk)
    (goes : desk.Goes deed after) : Reflects lifetime capacity (past.extend deed) after := by
  cases goes with
  | inserted handle id => exact reflects.inserted id
  | waited span => exact reflects.waited span
  | looked => exact reflects
  | counted => exact reflects
  | cloned =>
      exact ⟨reflects.lasts, reflects.room, reflects.now, reflects.settled, reflects.sorted,
        reflects.entries⟩

/-- What is remembered are the ids that a window holds and that are not too old. -/
theorem mem_live_iff (reflects : Reflects lifetime capacity past desk) {id : String} :
    id ∈ (desk.window.entries.filter (desk.window.isLive desk.now)).map Entry.id ↔
      past.Recalls lifetime capacity id := by
  rw [reflects.entries, List.mem_map]
  constructor
  · rintro ⟨⟨_, since⟩, member, rfl⟩
    obtain ⟨among, live⟩ := List.mem_filter.mp member
    obtain ⟨early, late, place, last, few⟩ := mem_newest_latest_iff.mp among
    rw [Window.isLive_iff, reflects.now, reflects.lasts] at live
    exact ⟨early, since, late, place, last, live, few⟩
  · rintro ⟨early, since, late, place, last, live, few⟩
    refine ⟨⟨id, since⟩, List.mem_filter.mpr ⟨?_, ?_⟩, rfl⟩
    · exact mem_newest_latest_iff.mpr ⟨early, late, place, last, few⟩
    · rw [Window.isLive_iff, reflects.now, reflects.lasts]
      exact live

theorem contains_iff (reflects : Reflects lifetime capacity past desk) {id : String} :
    desk.window.contains desk.now id = true ↔ past.Recalls lifetime capacity id :=
  Window.contains_iff_live.trans reflects.mem_live_iff

theorem size_le (reflects : Reflects lifetime capacity past desk) :
    desk.window.size desk.now ≤ capacity := by
  change (desk.window.entries.filter (desk.window.isLive desk.now)).length ≤ capacity
  rw [reflects.entries]
  exact (List.length_filter_le _ _).trans (length_newest_le _ _)

theorem exists_ids (reflects : Reflects lifetime capacity past desk) :
    ∃ ids : Finset String, ids.card = desk.window.size desk.now ∧
      ∀ id, id ∈ ids ↔ past.Recalls lifetime capacity id := by
  let live := desk.window.entries.filter (desk.window.isLive desk.now)
  have distinct : (live.map Entry.id).Nodup := by
    change ((desk.window.entries.filter _).map Entry.id).Nodup
    rw [reflects.entries]
    exact (nodup_ids_latest past.insertions).sublist
      ((List.filter_sublist.trans (List.drop_sublist _ _)).map Entry.id)
  refine ⟨(live.map Entry.id).toFinset, ?_, fun id => ?_⟩
  · rw [List.toFinset_card_of_nodup distinct, List.length_map]
    rfl
  · rw [List.mem_toFinset]
    exact reflects.mem_live_iff

end Reflects

/-! ## Runs -/

/-- What holds of all that is done with the handles of one window: what is answered is a matter of
the past alone, with whatever handle it is asked for. -/
structure Recollects (lifetime : Time.Span) (capacity : Nat) (start : Desk) (deeds : List Deed)
    (final : Desk) : Prop where
  /-- An id is found exactly if it was inserted less than a lifetime ago, and fewer different
  others than there is room for were inserted since. -/
  looked : ∀ early late handle id found, deeds = early ++ .looked handle id found :: late →
    (found = true ↔ (Past.of early).Recalls lifetime capacity id)
  /-- The count is that of the ids that are found, and never more than there is room for. -/
  counted : ∀ early late handle size, deeds = early ++ .counted handle size :: late →
    size ≤ capacity ∧ ∃ ids : Finset String, ids.card = size ∧
      ∀ id, id ∈ ids ↔ (Past.of early).Recalls lifetime capacity id
  /-- Had something not been asked, all else would have been answered the same. -/
  unmoved : ∀ early late deed, deeds = early ++ deed :: late → deed.asks = true →
    Run Desk.Goes start (early ++ late) final

theorem Desk.Goes.unmoved {desk after : Desk} {deed : Deed} (goes : desk.Goes deed after)
    (asks : deed.asks = true) : after = desk := by
  cases goes with
  | looked => rfl
  | counted => rfl
  | inserted => cases asks
  | cloned => cases asks
  | waited => cases asks

theorem reflects_of_run {lifetime : Time.Span} {capacity : Nat} {window : Window}
    {deeds : List Deed} {final : Desk} (made : Window.of lifetime capacity = .ok window)
    (run : Run Desk.Goes { window } deeds final) :
    Reflects lifetime capacity (Past.of deeds) final := by
  induction run with
  | none => exact Reflects.initially made
  | next run deed goes ih =>
      rw [Past.of_snoc]
      exact ih.goes goes

/-- A window remembers exactly the ids that were inserted last, as long as they are not too
old. -/
theorem handles_recollect {lifetime : Time.Span} {capacity : Nat} {window : Window}
    {deeds : List Deed} {final : Desk} (made : Window.of lifetime capacity = .ok window)
    (run : Run Desk.Goes { window } deeds final) :
    Recollects lifetime capacity { window } deeds final where
  looked early late handle id found place := by
    obtain ⟨before, after, earlier, goes⟩ := run.split place
    cases goes
    exact (reflects_of_run made earlier).contains_iff
  counted early late handle size place := by
    obtain ⟨before, after, earlier, goes⟩ := run.split place
    cases goes
    exact ⟨(reflects_of_run made earlier).size_le, (reflects_of_run made earlier).exists_ids⟩
  unmoved early late deed place asks := by
    obtain ⟨before, earlier, rest⟩ := run.of_append place
    obtain ⟨after, asked, later⟩ := rest.of_append (List.singleton_append).symm
    obtain rfl := asked.of_singleton.unmoved asks
    exact earlier.append later

/-- There is no room for the one of three ids whose last insertion lies back furthest.  Of the
others one is too old in the end, and the other one is not, since it was inserted again. -/
theorem handles_recollect_three :
    let window : Window := { lifetime := ⟨10⟩, capacity := 2 }
    ∃ deeds final, Window.of ⟨10⟩ 2 = .ok window ∧ Run Desk.Goes { window } deeds final ∧
      deeds = [.inserted 0 "a", .waited ⟨4⟩, .cloned 0 1, .inserted 1 "b", .inserted 0 "a",
        .inserted 1 "c", .looked 0 "a" true, .looked 1 "b" false, .counted 0 2, .waited ⟨9⟩,
        .inserted 1 "c", .waited ⟨1⟩, .looked 0 "a" false, .looked 0 "c" true, .counted 1 1] ∧
      Recollects ⟨10⟩ 2 { window } deeds final := by
  intro window
  have made : Window.of ⟨10⟩ 2 = .ok window := rfl
  have next {earlier : List Deed} {before after : Desk} {deed : Deed}
      (run : Run Desk.Goes { window } earlier before) (goes : before.Goes deed after) :
      Run Desk.Goes { window } (earlier ++ [deed]) after :=
    run.next deed goes
  have first := next .none (.inserted 0 "a" (by decide))
  have cloned := next (next first (.waited ⟨4⟩)) (.cloned 0 (by decide))
  have both := next (next cloned (.inserted 1 "b" (by decide))) (.inserted 0 "a" (by decide))
  have full := next both (.inserted 1 "c" (by decide))
  have kept := next (next full (.looked 0 "a" (by decide))) (.looked 1 "b" (by decide))
  have later := next (next kept (.counted 0 (by decide))) (.waited ⟨9⟩)
  have again := next (next later (.inserted 1 "c" (by decide))) (.waited ⟨1⟩)
  have last := next (next again (.looked 0 "a" (by decide))) (.looked 0 "c" (by decide))
  have run := next last (.counted 1 (by decide))
  exact ⟨_, _, made, run, by decide +kernel, handles_recollect made run⟩

end Scribe.Dedup
