import Colloquy.Reprompt
import Mathlib.Data.List.DropRight
import Mathlib.Data.List.Nodup

/-!
# What a queue of reprompts remembers

Recording a reprompt drops the one that was kept for its module and, if there are too many then, the
oldest one. What is left after many calls can be said without going through them one by one:

* what was **recorded** since the queue was last cleared is a list that grows at its end
  (`recorded`);
* of each module only the **latest** reprompt in that list counts (`latest`);
* the queue is the **end** of what counts, as long as there is room for (`entries_after`).

A module whose reprompt was dropped for want of room comes back at the end when something is
recorded for it again, and so does one whose reprompt is replaced: the two cases need not be told
apart.

## What is found

No two reprompts of a queue belong to one module (`nodup_entries_after`). As the module can be read
off the topic, no two of them have one topic either, and looking for a topic finds the one there is
(`find?_eq_some_iff`).
-/

namespace Colloquy

namespace RepromptQueue

/-! ### Calls -/

/-- What is **called** of a queue: to record a text for a topic, or to forget everything. -/
inductive Call where
  | record (text topic : String)
  | clear
deriving DecidableEq, Repr

/-- The reprompt that a call records. -/
def Call.entry? : Call → Option Reprompt
  | record text topic =>
    let topic := Text.lower (Topic.bare topic)
    some { module := Topic.moduleOf topic, topic, text }
  | clear => none

/-- What a call makes of a queue. -/
def Call.apply (queue : RepromptQueue) : Call → RepromptQueue
  | record text topic => queue.record text topic
  | clear => {}

/-- The queue **after** these calls, one after the other, on an empty one. -/
def after (calls : List Call) : RepromptQueue := calls.foldl Call.apply {}

/-- What was **recorded** since the queue was last cleared, in order. -/
def recorded (calls : List Call) : List Reprompt :=
  (calls.rtakeWhile (· ≠ .clear)).filterMap Call.entry?

/-- Of each module the **latest** reprompt, in the order in which they were recorded. -/
def latest : List Reprompt → List Reprompt
  | [] => []
  | entry :: later =>
    if later.any (·.module = entry.module) then latest later else entry :: latest later

theorem after_concat (calls : List Call) (call : Call) :
    after (calls ++ [call]) = call.apply (after calls) := by
  rw [after, List.foldl_append]
  rfl

theorem recorded_concat_record (calls : List Call) (text topic : String) :
    recorded (calls ++ [.record text topic]) = recorded calls ++ [entryOf text topic] := by
  rw [recorded, List.rtakeWhile_concat_pos _ _ _ (by simp), List.filterMap_append]
  rfl

theorem recorded_concat_clear (calls : List Call) : recorded (calls ++ [.clear]) = [] := by
  rw [recorded, List.rtakeWhile_concat_neg _ _ _ (by simp)]
  rfl

/-! ### One reprompt for each module -/

theorem latest_subset {past : List Reprompt} {entry : Reprompt} (h : entry ∈ latest past) :
    entry ∈ past := by
  induction past with
  | nil => exact h
  | cons first later ih =>
    rw [latest] at h
    split at h
    · exact List.mem_cons_of_mem _ (ih h)
    · rcases List.mem_cons.mp h with rfl | h
      · exact List.mem_cons_self
      · exact List.mem_cons_of_mem _ (ih h)

theorem nodup_latest (past : List Reprompt) : ((latest past).map Reprompt.module).Nodup := by
  induction past with
  | nil => exact List.nodup_nil
  | cons first later ih =>
    rw [latest]
    split
    · exact ih
    · rename_i hnone
      refine List.nodup_cons.mpr ⟨?_, ih⟩
      rintro hmem
      obtain ⟨other, hother, hmodule⟩ := List.mem_map.mp hmem
      exact hnone (List.any_eq_true.mpr
        ⟨other, latest_subset hother, decide_eq_true hmodule⟩)

/-- What is recorded last is the latest of its module, in place of what was. -/
theorem latest_concat (past : List Reprompt) (entry : Reprompt) :
    latest (past ++ [entry]) = (latest past).filter (·.module ≠ entry.module) ++ [entry] := by
  induction past with
  | nil => simp [latest]
  | cons first later ih =>
    have hany : (later ++ [entry]).any (·.module = first.module) =
        (later.any (·.module = first.module) || decide (entry.module = first.module)) := by
      simp
    rw [List.cons_append, latest, latest, hany, ih]
    by_cases hlater : later.any (·.module = first.module) = true
    · rw [if_pos hlater, hlater, Bool.true_or, if_pos rfl]
    · rw [if_neg hlater, Bool.eq_false_iff.mpr hlater, Bool.false_or]
      by_cases hsame : entry.module = first.module
      · simp [hsame]
      · simp [hsame, Ne.symm hsame]

/-- Where modules do not recur, dropping one of them drops one reprompt at most. -/
theorem length_le_length_filter {entries : List Reprompt}
    (h : (entries.map Reprompt.module).Nodup) (module : String) :
    entries.length ≤ (entries.filter (·.module ≠ module)).length + 1 := by
  induction entries with
  | nil => exact Nat.zero_le _
  | cons first rest ih =>
    obtain ⟨hnew, hrest⟩ := List.nodup_cons.mp h
    by_cases hsame : first.module = module
    · -- none of the others is of this module
      have hkept : rest.filter (·.module ≠ module) = rest := by
        refine List.filter_eq_self.mpr fun other hother => decide_eq_true fun heq => hnew ?_
        exact List.mem_map.mpr ⟨other, hother, heq.trans hsame.symm⟩
      rw [List.filter_cons_of_neg (by simpa using hsame), hkept]
      exact Nat.le_refl _
    · rw [List.filter_cons_of_pos (by simpa using hsame)]
      exact Nat.succ_le_succ (ih hrest)

/-! ### The end of a list -/

theorem newest_of_length_le {entries : List Reprompt} (h : entries.length ≤ capacity) :
    newest entries = entries := by
  rw [newest, Nat.sub_eq_zero_of_le h, List.drop_zero]

theorem length_newest_le (entries : List Reprompt) : (newest entries).length ≤ capacity := by
  rw [newest, List.length_drop]
  omega

theorem newest_sublist (entries : List Reprompt) : (newest entries).Sublist entries :=
  List.drop_sublist _ _

/-- What lies before the last of them does not count. -/
theorem newest_append {front back : List Reprompt} (h : capacity ≤ back.length) :
    newest (front ++ back) = newest back := by
  have hlength : (front ++ back).length - capacity = front.length + (back.length - capacity) := by
    rw [List.length_append]
    omega
  rw [newest, newest, hlength, List.drop_append, List.drop_eq_nil_of_le (by omega), List.nil_append]
  congr 1
  omega

/-- **Recording** looks at the end of what counts only: where one module's reprompt is dropped from
the end, there is at most one place to be filled, and the new reprompt fills it. -/
theorem newest_filter_newest {entries : List Reprompt} (h : (entries.map Reprompt.module).Nodup)
    (entry : Reprompt) :
    newest ((newest entries).filter (·.module ≠ entry.module) ++ [entry]) =
      newest (entries.filter (·.module ≠ entry.module) ++ [entry]) := by
  rcases Nat.le_total entries.length capacity with hshort | hlong
  · rw [newest_of_length_le hshort]
  · have hfull : (newest entries).length = capacity := by
      rw [newest, List.length_drop]
      omega
    have hroom := length_le_length_filter (h.sublist ((newest_sublist entries).map _)) entry.module
    obtain ⟨front, hfront⟩ : ∃ front, entries = front ++ newest entries :=
      ⟨_, (List.take_append_drop _ entries).symm⟩
    conv_rhs => rw [hfront, List.filter_append, List.append_assoc]
    refine (newest_append ?_).symm
    rw [List.length_append, List.length_singleton]
    omega

/-! ### The queue after calls -/

theorem entries_record (queue : RepromptQueue) (text topic : String) :
    (queue.record text topic).entries =
      newest (queue.entries.filter (·.module ≠ (entryOf text topic).module) ++
        [entryOf text topic]) := rfl

theorem entries_after (calls : List Call) :
    (after calls).entries = newest (latest (recorded calls)) := by
  induction calls using List.reverseRecOn with
  | nil => rfl
  | append_singleton calls call ih =>
    cases call with
    | record text topic =>
      have hstep : (after (calls ++ [.record text topic])).entries =
          ((after calls).record text topic).entries := by
        rw [after_concat]
        rfl
      rw [hstep, entries_record, ih, recorded_concat_record, latest_concat]
      exact newest_filter_newest (nodup_latest _) (entryOf text topic)
    | clear =>
      rw [after_concat, recorded_concat_clear]
      rfl

/-- Every reprompt is of the module that its topic names. -/
theorem module_of_mem_recorded {calls : List Call} {entry : Reprompt} (h : entry ∈ recorded calls) :
    entry.module = Topic.moduleOf entry.topic := by
  obtain ⟨call, -, hcall⟩ := List.mem_filterMap.mp h
  cases call with
  | record text topic =>
    obtain rfl : entryOf text topic = entry := Option.some_inj.mp hcall
    rfl
  | clear => cases hcall

theorem module_of_mem_after {calls : List Call} {entry : Reprompt}
    (h : entry ∈ (after calls).entries) : entry.module = Topic.moduleOf entry.topic := by
  rw [entries_after] at h
  exact module_of_mem_recorded (latest_subset ((newest_sublist _).subset h))

theorem nodup_entries_after (calls : List Call) :
    ((after calls).entries.map Reprompt.module).Nodup := by
  rw [entries_after]
  exact (nodup_latest _).sublist ((newest_sublist _).map _)

/-! ### What is found -/

theorem of_find?_eq_some {queue : RepromptQueue} {topic : String} {entry : Reprompt}
    (h : queue.find? topic = some entry) :
    entry ∈ queue.entries ∧ entry.topic = topicKey topic := by
  rw [find?] at h
  exact ⟨List.mem_of_find?_eq_some h, by simpa using List.find?_some h⟩

/-- Where modules do not recur and can be read off the topics, looking for a topic finds **the**
reprompt of that topic. -/
theorem find?_eq_some_iff {queue : RepromptQueue}
    (hnodup : (queue.entries.map Reprompt.module).Nodup)
    (hmodule : ∀ entry ∈ queue.entries, entry.module = Topic.moduleOf entry.topic)
    {topic : String} {entry : Reprompt} :
    queue.find? topic = some entry ↔ entry ∈ queue.entries ∧ entry.topic = topicKey topic := by
  constructor
  · exact of_find?_eq_some
  · rintro ⟨hmem, htopic⟩
    cases hfind : queue.find? topic with
    | none =>
      rw [find?, List.find?_eq_none] at hfind
      exact absurd (decide_eq_true htopic) (hfind entry hmem)
    | some other =>
      -- both are of this topic, so they are of one module, and that stands there once
      obtain ⟨hother, hname⟩ := of_find?_eq_some hfind
      have hsame : other.module = entry.module := by
        rw [hmodule other hother, hmodule entry hmem, hname, htopic]
      exact congrArg some (List.inj_on_of_nodup_map hnodup hother hmem hsame)

theorem find?_eq_none_iff {queue : RepromptQueue} {topic : String} :
    queue.find? topic = none ↔ ∀ entry ∈ queue.entries, entry.topic ≠ topicKey topic := by
  simp [find?, List.find?_eq_none]

theorem entryOf_mem_record (queue : RepromptQueue) (text topic : String) :
    entryOf text topic ∈ (queue.record text topic).entries := by
  have hlast : 0 < capacity := by decide
  rw [entries_record, newest, List.length_append, List.length_singleton, List.drop_append_of_le_length
    (by omega)]
  exact List.mem_append_right _ List.mem_cons_self

/-- A queue **remembers** of these calls what it should. -/
structure Remembers (calls : List Call) : Prop where
  /-- Of each module the latest reprompt, and of these the last three, oldest first. -/
  entries : (after calls).entries = (latest (recorded calls)).rtake 3
  /-- What is found for a topic is the one reprompt of its bare name in small letters. -/
  found : ∀ topic entry, (after calls).find? topic = some entry ↔
    entry ∈ (after calls).entries ∧ entry.topic = Text.lower (Topic.bare topic)
  /-- Nothing is found exactly if there is none. -/
  missed : ∀ topic, (after calls).find? topic = none ↔
    ∀ entry ∈ (after calls).entries, entry.topic ≠ Text.lower (Topic.bare topic)
  /-- What was recorded last is found, with its text. -/
  last : ∀ text topic, calls.getLast? = some (.record text topic) →
    ∃ entry, (after calls).find? topic = some entry ∧ entry.text = text

/-- **A queue of reprompts remembers** the last three modules that something was recorded for, each
with what was recorded for it last. -/
theorem remembers_calls (calls : List Call) : Remembers calls where
  entries := entries_after calls
  found _ _ := find?_eq_some_iff (nodup_entries_after calls) fun _ => module_of_mem_after
  missed _ := find?_eq_none_iff
  last text topic hlast := by
    obtain ⟨earlier, rfl⟩ := List.getLast?_eq_some_iff.mp hlast
    refine ⟨entryOf text topic, ?_, rfl⟩
    rw [find?_eq_some_iff (nodup_entries_after _) fun _ => module_of_mem_after]
    refine ⟨?_, rfl⟩
    rw [after_concat]
    exact entryOf_mem_record _ text topic

end RepromptQueue

end Colloquy
