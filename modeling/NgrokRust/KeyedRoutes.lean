import Mathlib.Data.List.AList
import Mathlib.Data.List.Perm.Basic

/-!
# The routes of a keyed table

A table maps keys to records, and each record points to a target.  The routes of
the table are the pairs of a key and its target, without the rest of the record.
A second collection that has one item for every route, in any order, is then a
permutation of the routes.  The rules below say how the routes follow an insertion,
an update that keeps the target, and a removal.
-/

namespace KeyedRoutes

variable {Key Record Target : Type*}

def routes (target : Record → Target) (table : AList fun _ : Key => Record) :
    List (Key × Target) :=
  table.entries.map fun entry => (entry.1, target entry.2)

variable {target : Record → Target} {table : AList fun _ : Key => Record} {key : Key}
  {record : Record}

@[simp]
theorem routes_empty : routes target (∅ : AList fun _ : Key => Record) = [] := rfl

@[simp]
theorem length_routes : (routes target table).length = table.entries.length := by
  simp [routes]

theorem routes_keys : (routes target table).map Prod.fst = table.keys := by
  simp [routes, AList.keys, List.keys]

variable [DecidableEq Key]

theorem mem_routes_iff {goal : Target} :
    (key, goal) ∈ routes target table ↔
      ∃ record, table.lookup key = some record ∧ target record = goal := by
  simp only [routes, List.mem_map, AList.lookup]
  constructor
  · rintro ⟨⟨key', record⟩, entry, same⟩
    obtain ⟨rfl, rfl⟩ := Prod.mk.inj same
    exact ⟨record, (List.mem_dlookup_iff table.nodupKeys).mpr entry, rfl⟩
  · rintro ⟨record, found, rfl⟩
    exact ⟨⟨key, record⟩, (List.mem_dlookup_iff table.nodupKeys).mp found, rfl⟩

@[simp]
theorem entries_erase : (table.erase key).entries = table.entries.kerase key := rfl

/-- The entry of a key and the table without it. -/
theorem entries_perm_erase (found : table.lookup key = some record) :
    table.entries.Perm (⟨key, record⟩ :: (table.erase key).entries) := by
  have inTable : key ∈ table.entries.keys :=
    AList.lookup_isSome.mp (by rw [found]; rfl)
  obtain ⟨record', before, after, _, entries, erased⟩ := List.exists_of_kerase inTable
  have same : record' = record := by
    have entry : (⟨key, record'⟩ : Sigma fun _ : Key => Record) ∈ table.entries := by
      simp [entries]
    have found' := (List.mem_dlookup_iff table.nodupKeys).mpr entry
    rw [AList.lookup] at found
    rw [found] at found'
    exact (Option.mem_some.mp found').symm
  subst same
  rw [entries_erase, erased, entries]
  exact List.perm_middle

theorem routes_perm_erase (found : table.lookup key = some record) :
    (routes target table).Perm ((key, target record) :: routes target (table.erase key)) :=
  (entries_perm_erase found).map _

theorem routes_insert_fresh (fresh : table.lookup key = none) :
    routes target (table.insert key record) = (key, target record) :: routes target table := by
  rw [routes, AList.entries_insert_of_notMem (AList.lookup_eq_none.mp fresh)]
  rfl

theorem routes_erase_absent (absent : table.lookup key = none) :
    routes target (table.erase key) = routes target table := by
  have missing : key ∉ table.entries.keys := AList.lookup_eq_none.mp absent
  simp only [routes, entries_erase, List.kerase_of_notMem_keys missing]

theorem mem_of_mem_routes_erase {route : Key × Target}
    (mem : route ∈ routes target (table.erase key)) : route ∈ routes target table :=
  ((List.kerase_sublist key table.entries).map _).subset mem

theorem mem_routes_insert {route : Key × Target}
    (mem : route ∈ routes target (table.insert key record)) :
    route = (key, target record) ∨ route ∈ routes target table := by
  rw [routes, AList.entries_insert, List.map_cons, List.mem_cons] at mem
  exact mem.imp_right fun old => ((List.kerase_sublist key table.entries).map _).subset old

theorem ne_of_mem_routes_erase {other : Key} {goal : Target}
    (mem : (other, goal) ∈ routes target (table.erase key)) : other ≠ key := by
  have inTable : other ∈ (table.erase key).keys := by
    have keys : (routes target (table.erase key)).map Prod.fst = (table.erase key).keys :=
      routes_keys
    exact keys ▸ List.mem_map.2 ⟨_, mem, rfl⟩
  exact (AList.mem_erase.1 (AList.mem_keys.2 inTable)).1

/-- A table without an entry, when no two of its entries have the same target. -/
theorem mem_targets_erase {goal : Target} (found : table.lookup key = some record)
    (apart : ((routes target table).map Prod.snd).Nodup) :
    goal ∈ (routes target (table.erase key)).map Prod.snd ↔
      goal ∈ (routes target table).map Prod.snd ∧ goal ≠ target record := by
  have targets := ((routes_perm_erase found : (routes target table).Perm _).map Prod.snd)
  rw [List.map_cons] at targets
  have fresh := (List.nodup_cons.mp (targets.nodup_iff.mp apart)).1
  rw [targets.mem_iff, List.mem_cons]
  constructor
  · intro mem
    refine ⟨.inr mem, ?_⟩
    rintro rfl
    exact fresh mem
  · rintro ⟨rfl | mem, different⟩
    · exact absurd rfl different
    · exact mem

theorem targets_insert_sublist : ((routes target (table.insert key record)).map Prod.snd).Sublist
    (target record :: (routes target table).map Prod.snd) := by
  rw [routes, AList.entries_insert, List.map_cons, List.map_cons]
  exact (((List.kerase_sublist key table.entries).map _).map _).cons_cons _

theorem nodup_targets_erase (apart : ((routes target table).map Prod.snd).Nodup) :
    ((routes target (table.erase key)).map Prod.snd).Nodup :=
  apart.sublist (((List.kerase_sublist key table.entries).map _).map _)

theorem routes_insert_same {record' : Record} (found : table.lookup key = some record)
    (same : target record' = target record) :
    (routes target (table.insert key record')).Perm (routes target table) := by
  refine List.Perm.trans ?_ (routes_perm_erase found).symm
  simp [routes, AList.entries_insert, same]

theorem length_erase_le : (table.erase key).entries.length ≤ table.entries.length :=
  (List.kerase_sublist key table.entries).length_le

theorem length_insert_le :
    (table.insert key record).entries.length ≤ table.entries.length + 1 := by
  rw [AList.entries_insert, List.length_cons]
  exact Nat.succ_le_succ (List.kerase_sublist key table.entries).length_le

theorem length_insert_same {record' : Record} (found : table.lookup key = some record) :
    (table.insert key record').entries.length = table.entries.length := by
  have same : (routes (fun _ : Record => ()) (table.insert key record')).Perm
      (routes (fun _ : Record => ()) table) := routes_insert_same found rfl
  simpa using same.length_eq

theorem perm_eraseIdx_append {Item : Type*} {items : List Item} {index : Nat} {item : Item}
    (at_ : items[index]? = some item) : (items.eraseIdx index ++ [item]).Perm items := by
  obtain ⟨within, rfl⟩ := List.getElem?_eq_some_iff.mp at_
  exact (List.perm_append_singleton _ _).trans (List.getElem_cons_eraseIdx_perm within)

theorem perm_cons_eraseIdx {Item : Type*} {items : List Item} {index : Nat} {item : Item}
    (at_ : items[index]? = some item) : items.Perm (item :: items.eraseIdx index) := by
  obtain ⟨within, rfl⟩ := List.getElem?_eq_some_iff.mp at_
  exact (List.getElem_cons_eraseIdx_perm within).symm

end KeyedRoutes
