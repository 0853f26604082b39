import Mathlib.Data.List.Basic
import Mathlib.Data.List.Induction
import Mathlib.Data.List.Nodup

/-!
# What a log of calls sets

A record is set up call by call.  A call may replace the value of a field, add to a list, or
set an entry of a map.  What the calls come to is read off their log: the last value that
was given to a field, all that was added to a list, and the last value of every key.
-/

namespace CallLogs

variable {κ α K V : Type*}

def lastOf (select : κ → Option α) (calls : List κ) : Option α :=
  (calls.filterMap select).getLast?

@[simp]
theorem lastOf_nil (select : κ → Option α) : lastOf select [] = none := rfl

theorem lastOf_append (select : κ → Option α) (first second : List κ) :
    lastOf select (first ++ second) = (lastOf select second).or (lastOf select first) := by
  rw [lastOf, List.filterMap_append, List.getLast?_append]
  rfl

def allOf (select : κ → Option α) (before : List α) (calls : List κ) : List α :=
  calls.foldl (fun items call => (select call).elim items fun item => items ++ [item]) before

theorem allOf_append (select : κ → Option α) (before : List α) (first second : List κ) :
    allOf select before (first ++ second) = allOf select (allOf select before first) second :=
  List.foldl_append

theorem allOf_eq (select : κ → Option α) (before : List α) (calls : List κ) :
    allOf select before calls = before ++ calls.filterMap select := by
  induction calls generalizing before with
  | nil => exact (List.append_nil before).symm
  | cons call calls ih =>
      rw [allOf, List.foldl_cons]
      cases added : select call with
      | none =>
          rw [List.filterMap_cons_none added]
          exact ih before
      | some item =>
          rw [List.filterMap_cons_some added, List.append_cons]
          exact ih (before ++ [item])

section Maps

variable [DecidableEq K]

def insertEntry (entries : List (K × V)) (entry : K × V) : List (K × V) :=
  entries.filter (fun other => other.1 ≠ entry.1) ++ [entry]

def insertAll (entries more : List (K × V)) : List (K × V) := more.foldl insertEntry entries

theorem insertAll_append (entries first second : List (K × V)) :
    insertAll (insertAll entries first) second = insertAll entries (first ++ second) :=
  List.foldl_append.symm

theorem keys_insertEntry_nodup {entries : List (K × V)} {entry : K × V}
    (distinct : (entries.map Prod.fst).Nodup) :
    ((insertEntry entries entry).map Prod.fst).Nodup := by
  rw [insertEntry, List.map_append, List.nodup_append']
  refine ⟨distinct.sublist (List.filter_sublist.map _), List.nodup_singleton _, ?_⟩
  intro key mem same
  obtain ⟨other, among, rfl⟩ := List.mem_map.1 mem
  have differs := of_decide_eq_true (List.mem_filter.1 among).2
  exact differs (by simpa using same)

theorem keys_insertAll_nodup {entries : List (K × V)} (distinct : (entries.map Prod.fst).Nodup)
    (more : List (K × V)) : ((insertAll entries more).map Prod.fst).Nodup := by
  induction more generalizing entries with
  | nil => exact distinct
  | cons entry more ih => exact ih (keys_insertEntry_nodup distinct)

/-- The map has the last value that was set for each key. -/
theorem mem_insertAll_iff {more : List (K × V)} {key : K} {value : V} :
    (key, value) ∈ insertAll [] more ↔
      lastOf (fun entry => if entry.1 = key then some entry.2 else none) more = some value := by
  induction more using List.reverseRecOn with
  | nil => simp [insertAll]
  | append_singleton more entry ih =>
      rw [insertAll, List.foldl_append, List.foldl_cons, List.foldl_nil, insertEntry,
        List.mem_append, List.mem_filter, lastOf_append]
      change (key, value) ∈ insertAll [] more ∧ _ ∨ _ ↔ _
      rw [ih]
      by_cases same : entry.1 = key
      · subst same
        simp [lastOf, Prod.ext_iff, eq_comm]
      · have differs : (key, value) ≠ entry := fun equal => same (congrArg Prod.fst equal).symm
        simp [lastOf, same, differs, Ne.symm same]

end Maps

end CallLogs
