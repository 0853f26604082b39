import NgrokRust.MuxadoStreamTable

/-!
# Ids of local streams

A local open takes the counter plus two, clamped to 31 bits.  While the next number
of the side's parity fits, every id is new; after that the clamp hands out the
largest id again and again, which also has the wrong parity for a server.  An open
is sound in a run exactly if it fails there or the counter has room left.
-/

namespace NgrokRust

namespace Muxado

open LabelledRuns

namespace Hub

def openedId (hub : Hub) : HubOp → Option StreamID
  | .createStream none window needsSyn =>
      match hub.createStream none window needsSyn with
      | .ok (id, _, _) => some id
      | .error _ => none
  | _ => none

def localIds : Hub → List HubOp → List StreamID
  | _, [] => []
  | hub, op :: ops => (hub.openedId op).toList ++ localIds (hub.step op) ops

def IdsUsedUp (hub : Hub) : Prop := streamIdMax < hub.manager.lastLocalId.val + 2

/-- A local open fails, or there is an id left for it. -/
def idsLeft (hub : Hub) : HubOp → Prop
  | .createStream none _ _ => hub.len = hub.manager.streamLimit ∨ ¬ hub.IdsUsedUp
  | _ => True

def idParity (client : Bool) : Nat := if client then 1 else 0

theorem createStream_lastLocalId {hub hub' : Hub} {id : Option StreamID} {window : Nat}
    {needsSyn : Bool} {newId : StreamID} {key : StreamKey}
    (created : hub.createStream id window needsSyn = .ok (newId, key, hub')) :
    hub'.manager.lastLocalId = if id = none then newId else hub.manager.lastLocalId := by
  unfold createStream at created
  split at created
  · cases created
  · cases id with
    | none =>
        simp only [Except.ok.injEq, Prod.mk.injEq] at created
        obtain ⟨rfl, rfl, rfl⟩ := created
        simp [setHandle, setEnd, pushTask]
    | some remoteId =>
        simp only [Except.ok.injEq, Prod.mk.injEq] at created
        obtain ⟨rfl, rfl, rfl⟩ := created
        simp [setHandle, setEnd, pushTask]

/-- Only a local open moves the counter, to the id that it hands out. -/
theorem step_lastLocalId (hub : Hub) (op : HubOp) :
    (hub.step op).manager.lastLocalId = (hub.openedId op).getD hub.manager.lastLocalId := by
  by_cases creates : ∃ id window needsSyn, op = .createStream id window needsSyn
  · obtain ⟨id, window, needsSyn, rfl⟩ := creates
    cases created : hub.createStream id window needsSyn with
    | error error => cases id <;> simp [Hub.step, openedId, created]
    | ok result =>
        obtain ⟨newId, key, hub'⟩ := result
        have moved := createStream_lastLocalId created
        cases id <;> simpa [Hub.step, openedId, created] using moved
  · have none : hub.openedId op = none := by
      cases op <;> first | rfl | exact (creates ⟨_, _, _, rfl⟩).elim
    rw [none, Option.getD_none]
    have spec := hub.step_spec op
    generalize hub.step op = hub' at spec
    cases spec with
    | created id window needsSyn _ _ _ _ => exact (creates ⟨id, window, needsSyn, rfl⟩).elim
    | pollSend sending _ polled hub' spec => cases spec <;> rfl
    | system _ cx _ frame rest _ => unfold nextSystemFrame; split <;> rfl
    | next _ cx alive _ index id taskKey task item sink _ handle found polled hub' spec =>
        cases spec <;>
          simp [endTask, emitFor, emit, setEnd, setHandle, pushTask, popTask, storeWaker]
    | _ => rfl

theorem openedId_eq_some {hub : Hub} {op : HubOp} {id : StreamID}
    (opened : hub.openedId op = some id) :
    hub.len ≠ hub.manager.streamLimit ∧ (∃ window needsSyn, op = .createStream none window needsSyn) ∧
      id = hub.chosenId none := by
  unfold openedId at opened
  split at opened
  · rename_i window needsSyn
    split at opened
    · rename_i newId key hub' created
      obtain ⟨room, -, -, chosen, -⟩ := createStream_eq_ok created
      exact ⟨room, ⟨window, needsSyn, rfl⟩, (Option.some.inj opened).symm.trans chosen⟩
    · cases opened
  · cases opened

theorem openedId_eq_none {hub : Hub} {window : Nat} {needsSyn : Bool}
    (failed : hub.openedId (.createStream none window needsSyn) = none) :
    hub.len = hub.manager.streamLimit ∧ hub.step (.createStream none window needsSyn) = hub := by
  cases created : hub.createStream none window needsSyn with
  | ok result =>
      obtain ⟨newId, key, hub'⟩ := result
      simp [openedId, created] at failed
  | error error =>
      exact ⟨(createStream_fails_iff hub none window needsSyn).mp ⟨error, created⟩,
        by simp only [Hub.step, created]⟩

/-- What a sequence of operations may make of the local ids. -/
structure IdsSound (client : Bool) (hub : Hub) (given : List StreamID) (ops : List HubOp) :
    Prop where
  distinct : (given ++ localIds hub ops).Nodup
  nonzero : ∀ id ∈ localIds hub ops, id.val ≠ 0
  parity : ∀ id ∈ localIds hub ops, id.val % 2 = idParity client
  /-- With no id left, a local open fails and changes nothing. -/
  refused : ∀ before window needsSyn after,
    ops = before ++ .createStream none window needsSyn :: after →
    (run Hub.step hub before).IdsUsedUp →
    (run Hub.step hub before).openedId (.createStream none window needsSyn) = none ∧
      (run Hub.step hub before).step (.createStream none window needsSyn) = run Hub.step hub before

/-- The counter is the largest id given, or still at its start. -/
structure Counted (client : Bool) (hub : Hub) (given : List StreamID) : Prop where
  parity : hub.manager.lastLocalId.val % 2 = idParity client
  bounded : ∀ id ∈ given, id.val ≤ hub.manager.lastLocalId.val
  given : hub.manager.lastLocalId.val ≤ 1 ∨ hub.manager.lastLocalId ∈ given

theorem Counted.new (streamLimit : Nat) (client : Bool) :
    Counted client (Hub.new streamLimit client) [] where
  parity := by cases client <;> rfl
  bounded := nofun
  given := by
    left
    cases client <;> simp [Hub.new, streamIdMax]

namespace Counted

variable {client : Bool} {hub : Hub} {given : List StreamID} {op : HubOp} {id : StreamID}

theorem step (counted : Counted client hub given) (left : hub.idsLeft op) :
    Counted client (hub.step op) (given ++ (hub.openedId op).toList) := by
  have moved := hub.step_lastLocalId op
  cases opened : hub.openedId op with
  | none =>
      rw [opened, Option.getD_none] at moved
      rw [Option.toList_none, List.append_nil]
      exact ⟨moved ▸ counted.parity, moved ▸ counted.bounded, moved ▸ counted.given⟩
  | some id =>
      obtain ⟨room, ⟨window, needsSyn, rfl⟩, rfl⟩ := openedId_eq_some opened
      have fits : ¬ hub.IdsUsedUp := left.resolve_left room
      rw [opened, Option.getD_some] at moved
      have value : (hub.chosenId none).val = hub.manager.lastLocalId.val + 2 := by
        simp only [IdsUsedUp] at fits
        simp only [chosenId, Option.getD_none, Constrained.clamp_val]
        omega
      constructor
      · rw [moved, value, Nat.add_mod_right]
        exact counted.parity
      · intro other member
        rw [moved, value]
        rcases List.mem_append.mp member with old | new
        · exact (counted.bounded other old).trans (Nat.le_add_right _ _)
        · rw [List.mem_singleton.mp new, value]
      · exact Or.inr (by simp [moved])

/-- While there are ids left, the one handed out is new, not zero and of the right
parity. -/
theorem opens (counted : Counted client hub given) (left : hub.idsLeft op)
    (opened : hub.openedId op = some id) :
    id ∉ given ∧ id.val ≠ 0 ∧ id.val % 2 = idParity client := by
  obtain ⟨room, ⟨window, needsSyn, rfl⟩, rfl⟩ := openedId_eq_some opened
  have fits : ¬ hub.IdsUsedUp := left.resolve_left room
  have value : (hub.chosenId none).val = hub.manager.lastLocalId.val + 2 := by
    simp only [IdsUsedUp] at fits
    simp only [chosenId, Option.getD_none, Constrained.clamp_val]
    omega
  refine ⟨fun old => ?_, by omega, ?_⟩
  · have := counted.bounded _ old
    omega
  · rw [value, Nat.add_mod_right]
    exact counted.parity

/-- With no id left, the clamp hands out one that was given or has the wrong parity. -/
theorem clamps (counted : Counted client hub given) (usedUp : hub.IdsUsedUp)
    (opened : hub.openedId op = some id) : id ∈ given ∨ id.val % 2 ≠ idParity client := by
  obtain ⟨-, -, rfl⟩ := openedId_eq_some opened
  have value : (hub.chosenId none).val = streamIdMax := by
    simp only [IdsUsedUp] at usedUp
    simp only [chosenId, Option.getD_none, Constrained.clamp_val]
    omega
  by_cases last : hub.manager.lastLocalId.val = streamIdMax
  · have same : hub.chosenId none = hub.manager.lastLocalId :=
      Constrained.ext (value.trans last.symm)
    rw [same]
    refine Or.inl (counted.given.resolve_left ?_)
    rw [last]
    decide
  · right
    have le := hub.manager.lastLocalId.val_le
    have parity := counted.parity
    rw [value, ← parity]
    simp only [IdsUsedUp, streamIdMax] at usedUp last le ⊢
    omega

end Counted

/-- The ids of a run are sound exactly if every local open of it fails or finds an id
left, whatever was opened before. -/
theorem idsSound_iff_of_counted {client : Bool} {hub : Hub} {given : List StreamID}
    (counted : Counted client hub given) (unique : given.Nodup) (ops : List HubOp) :
    IdsSound client hub given ops ↔ Admitted Hub.step idsLeft hub ops := by
  induction ops generalizing hub given with
  | nil =>
      refine iff_of_true ⟨by simpa [localIds] using unique, nofun, nofun, ?_⟩ trivial
      intro before window needsSyn after split
      simp at split
  | cons op ops ih =>
      constructor
      · intro sound
        have left : hub.idsLeft op := by
          by_contra usedUp
          unfold idsLeft at usedUp
          split at usedUp
          · rename_i window needsSyn
            obtain ⟨room, usedUp⟩ := not_or.mp usedUp
            rw [not_not] at usedUp
            cases opened : hub.openedId (.createStream none window needsSyn) with
            | none => exact room (openedId_eq_none opened).1
            | some id =>
                have member : id ∈ localIds hub (.createStream none window needsSyn :: ops) := by
                  simp [localIds, opened]
                rcases counted.clamps usedUp opened with old | wrong
                · exact List.disjoint_of_nodup_append sound.distinct old member
                · exact wrong (sound.parity id member)
          · exact usedUp trivial
        refine ⟨left, (ih (counted.step left) ?_).mp ?_⟩
        · have nodup := sound.distinct
          rw [localIds, ← List.append_assoc] at nodup
          exact nodup.of_append_left
        · constructor
          · simpa [localIds] using sound.distinct
          · exact fun id member => sound.nonzero id (List.mem_append_right _ member)
          · exact fun id member => sound.parity id (List.mem_append_right _ member)
          · intro before window needsSyn after split
            exact sound.refused (op :: before) window needsSyn after (by rw [split]; rfl)
      · rintro ⟨left, admitted⟩
        have fresh : (given ++ (hub.openedId op).toList).Nodup := by
          cases opened : hub.openedId op with
          | none => simpa using unique
          | some id =>
              refine unique.append (List.nodup_singleton id) ?_
              intro other old new
              obtain rfl := List.mem_singleton.mp new
              exact (counted.opens left opened).1 old
        obtain ⟨distinct, nonzero, parity, refused⟩ :=
          (ih (counted.step left) fresh).mpr admitted
        constructor
        · simpa [localIds] using distinct
        · intro id member
          rcases List.mem_append.mp member with first | later
          · exact (counted.opens left (Option.mem_toList.mp first)).2.1
          · exact nonzero id later
        · intro id member
          rcases List.mem_append.mp member with first | later
          · exact (counted.opens left (Option.mem_toList.mp first)).2.2
          · exact parity id later
        · intro before window needsSyn after split usedUp
          cases before with
          | nil =>
              obtain ⟨rfl, rfl⟩ := List.cons.inj split
              have full := left.resolve_right (not_not.mpr usedUp)
              have failed : hub.openedId (.createStream none window needsSyn) = none := by
                by_contra opened
                obtain ⟨id, opened⟩ := Option.ne_none_iff_exists'.mp opened
                exact (openedId_eq_some opened).1 full
              exact ⟨failed, (openedId_eq_none failed).2⟩
          | cons first before =>
              obtain ⟨rfl, rfl⟩ := List.cons.inj split
              exact refused before window needsSyn after rfl usedUp

/-- On a new manager: for every sequence of operations, the ids of its local opens are
distinct, not zero and of the side's parity, and no open goes through once they are
used up, if and only if every local open fails or finds an id left. -/
theorem idsSound_iff (streamLimit : Nat) (client : Bool) (ops : List HubOp) :
    IdsSound client (Hub.new streamLimit client) [] ops ↔
      Admitted Hub.step idsLeft (Hub.new streamLimit client) ops :=
  idsSound_iff_of_counted (.new streamLimit client) .nil ops

/-- Opens that find room move the counter by two each. -/
theorem run_opens (count : Nat) {hub : Hub}
    (room : hub.len + count < hub.manager.streamLimit)
    (fits : hub.manager.lastLocalId.val + 2 * count ≤ streamIdMax) :
    (run Hub.step hub (List.replicate count (.createStream none 1 true))).manager.lastLocalId.val =
        hub.manager.lastLocalId.val + 2 * count ∧
      (run Hub.step hub (List.replicate count (.createStream none 1 true))).len ≤
        hub.len + count ∧
      (run Hub.step hub (List.replicate count (.createStream none 1 true))).manager.streamLimit =
        hub.manager.streamLimit := by
  induction count generalizing hub with
  | zero => exact ⟨rfl, le_rfl, rfl⟩
  | succ count ih =>
      cases created : hub.createStream none 1 true with
      | error error =>
          have full := (createStream_fails_iff hub none 1 true).mp ⟨error, created⟩
          omega
      | ok result =>
          obtain ⟨newId, key, hub'⟩ := result
          obtain ⟨-, -, -, chosen, -, streams, -, -, limit, -⟩ := createStream_eq_ok created
          have moved : hub'.manager.lastLocalId = newId := createStream_lastLocalId created
          have value : hub'.manager.lastLocalId.val = hub.manager.lastLocalId.val + 2 := by
            simp only [moved, chosen, chosenId, Option.getD_none, Constrained.clamp_val]
            omega
          have grown : hub'.len ≤ hub.len + 1 := by
            simp only [len, streams]
            exact KeyedRoutes.length_insert_le
          have steps : hub.step (.createStream none 1 true) = hub' := by
            simp only [Hub.step, created]
          rw [List.replicate_succ, run_cons, steps]
          obtain ⟨last, size, same⟩ := @ih hub' (by omega) (by omega)
          exact ⟨by omega, by omega, same.trans limit⟩

/-- A client that opens 2^30 streams gets the id 2^31 - 1 twice. -/
theorem not_idsSound_wraps :
    ¬ IdsSound true (Hub.new (2 ^ 31) true) []
      (List.replicate (2 ^ 30) (.createStream none 1 true)) := by
  obtain ⟨count, countEq⟩ : ∃ count, 2 ^ 30 = count + 1 := ⟨2 ^ 30 - 1, rfl⟩
  have start : (Hub.new (2 ^ 31) true).manager.lastLocalId.val = 1 := by
    simp [Hub.new, streamIdMax]
  have empty : (Hub.new (2 ^ 31) true).len = 0 := rfl
  have limit : (Hub.new (2 ^ 31) true).manager.streamLimit = 2 ^ 31 := rfl
  obtain ⟨last, size, same⟩ := run_opens count
    (show (Hub.new (2 ^ 31) true).len + count < _ by omega)
    (by simp only [streamIdMax]; omega)
  intro sound
  have admitted := (idsSound_iff_of_counted (.new (2 ^ 31) true) .nil _).mp sound
  rw [countEq, List.replicate_succ', admitted_append] at admitted
  rcases admitted.2.1 with full | left
  · omega
  · apply left
    simp only [IdsUsedUp, streamIdMax]
    omega

end Hub

end Muxado

end NgrokRust
