import NgrokRust.MuxadoConnection

/-!
# The use of a stream

The bytes of a stream are moved by the polls of the task that holds it and by nothing else:
the tasks of the session and the users of other streams leave what it has accepted and
returned as it is, and what is left of it to read if it has come to its end.
-/

namespace NgrokRust

namespace Muxado

namespace Stream

/-- The bytes of a read fit into the room it was given. -/
theorem length_readBuffered {stream after : Stream} {remaining : Nat} {bytes : List UInt8}
    (read : stream.readBuffered remaining = (.ready (.ok bytes), after)) :
    bytes.length ≤ remaining := by
  unfold readBuffered at read
  split at read
  · cases read
    exact Nat.zero_le remaining
  · simp only at read
    split at read
    · split at read
      · cases read
      · cases read
        rw [List.length_take, Constrained.clamp_val, asU32]
        have small := Nat.mod_le (min stream.readBuf.length remaining) (2 ^ 32)
        omega
    · cases read
      exact Nat.zero_le remaining

theorem length_readLoop {stream after : Stream} {cx : Waker} {rounds remaining : Nat}
    {bytes : List UInt8}
    (read : readLoop cx remaining rounds stream = .ok (.ready (.ok bytes), after)) :
    bytes.length ≤ remaining := by
  induction rounds generalizing stream with
  | zero =>
      unfold readLoop at read
      split at read
      · exact length_readBuffered (Except.ok.inj read)
      · cases read
  | succ rounds ih =>
      unfold readLoop at read
      split at read
      · exact length_readBuffered (Except.ok.inj read)
      · cases received : ({ stream with readWaker := some cx }.pollRecvData cx) with
        | error panic => simp [received, bind, Except.bind] at read
        | ok outcome =>
            obtain ⟨polled, taken⟩ := outcome
            simp only [received, bind, Except.bind] at read
            cases polled with
            | pending => cases read
            | ready => exact ih read

end Stream

namespace StreamEnd

/-- The same bytes have passed, and an end that was reached is still reached. -/
structure Rests (before after : StreamEnd) : Prop where
  accepted : after.accepted = before.accepted
  returned : after.returned = before.returned
  opener : after.opener = before.opener
  ended : before.stream.readBuf = [] ∧ before.stream.dataReadClosed = true →
    after.stream.readBuf = [] ∧ after.stream.dataReadClosed = true

theorem Rests.refl (target : StreamEnd) : Rests target target :=
  ⟨rfl, rfl, rfl, fun ended => ended⟩

theorem Changes.rests {before after : StreamEnd} (changes : Changes .manager before after) :
    Rests before after := by
  obtain ⟨-, opener, -, accepted, returned⟩ := changes.manager_keeps
  have reads : after.stream.readBuf = before.stream.readBuf ∧
      after.stream.dataReadClosed = before.stream.dataReadClosed := by
    clear opener accepted returned
    induction changes with
    | refl => exact ⟨rfl, rfl⟩
    | tail _ change ih => cases change <;> exact ih
  exact ⟨accepted, returned, opener, fun ended => ⟨reads.1.trans ended.1, reads.2.trans ended.2⟩⟩

theorem Changes.returned_grows {actor : Actor} {before after : StreamEnd}
    (changes : Changes actor before after) : before.returned <+: after.returned := by
  induction changes with
  | refl => exact List.prefix_rfl
  | tail _ change ih =>
      cases change with
      | takeAcked => exact ih.trans (List.prefix_append _ _)
      | takeUnacked => exact ih.trans (List.prefix_append _ _)
      | _ => exact ih

def Untouched (target : StreamEnd) : Prop :=
  target.accepted = [] → target.stream.window.size = target.stream.window.maxSize

theorem Untouched.create (id : StreamID) (window : Nat) (needsSyn : Bool) :
    (StreamEnd.create id window needsSyn).Untouched := fun _ => rfl

theorem Untouched.change {actor : Actor} {before after : StreamEnd}
    (change : Change actor before after) (untouched : before.Untouched) : after.Untouched := by
  cases change with
  | ingest frame rest held queue kind =>
      intro nothing
      have whole := untouched nothing
      simp only [Stream.ingest, Window.inc_size, Window.inc_maxSize, whole]
      omega
  | write buf count held writable code isOpen credit le fits =>
      intro nothing
      obtain ⟨before_, taken⟩ := List.append_eq_nil_iff.1 nothing
      have zero : count = 0 := by
        have lengths := congrArg List.length taken
        simp only [List.length_take, List.length_nil] at lengths
        omega
      simp only [Window.dec_size, Window.dec_maxSize, zero, Nat.sub_zero]
      exact untouched before_
  | _ => exact untouched

end StreamEnd

open StreamEnd

namespace HubOp

def polls : HubOp → Option StreamKey
  | pollRead key _ _ => some key
  | pollWrite key _ _ => some key
  | pollFlush key => some key
  | pollShutdown key => some key
  | _ => none

end HubOp

namespace Hub

def RestsOrNew (hub hub' : Hub) (key : StreamKey) : Prop :=
  Rests (hub.ends key) (hub'.ends key) ∨
    key = hub.nextKey ∧ (hub'.ends key).accepted = [] ∧ (hub'.ends key).returned = []

/-- An operation that polls no stream lets them rest, also the one that it drops. -/
theorem rests_of_unpolled {hub : Hub} (addressed : hub.Addressed) {op : HubOp}
    (unpolled : op.polls = none) (key : StreamKey) : RestsOrNew hub (hub.step op) key := by
  cases op with
  | createStream id window needsSyn =>
      simp only [Hub.step]
      split
      · rename_i newId newKey hub' created
        obtain ⟨-, rfl, -, -, ends, -⟩ := createStream_eq_ok created
        by_cases new : key = hub.nextKey
        · refine .inr ⟨new, ?_⟩
          rw [ends, new, Function.update_self]
          exact ⟨rfl, rfl⟩
        · left
          rw [ends, Function.update_of_ne new]
          exact (changes_removeStream hub newId key).rests
      · exact .inl (.refl _)
  | sendToStream frame =>
      left
      simp only [Hub.step, startSendToStream]
      split
      · rename_i started
        split at started
        · cases started
          exact .refl _
        · cases started
      · exact .refl _
  | pollSendToStream =>
      left
      simp only [Hub.step]
      split
      · rename_i sending _
        exact (changes_pollSendToStream (hub.pollSendToStream_spec sending) key).rests
      · exact .refl _
  | closeDataWrite id =>
      left
      simp only [Hub.step, closeDataWrite]
      split <;> exact .refl _
  | pollNext pick cx =>
      left
      have spec := hub.pollNext_spec pick cx
      simp only [Hub.step]
      generalize hub.pollNext pick cx = outcome at spec
      cases spec with
      | goneAway _ => exact .refl _
      | system _ frame rest _ =>
          exact (changes_nextSystemFrame ((hub.storeWaker cx).setSysRx rest) frame key).rests
      | waiting _ _ => exact .refl _
      | unknown _ _ _ _ _ _ => exact .refl _
      | next _ _ index id taskKey task item sink answer handle _ polled hub' spec =>
          have alive := (addressed.task (id, taskKey) (List.mem_of_getElem? task)).2.2
          exact (changes_next (hub.storeWaker cx) alive answer spec key).rests
  | sysSend frame => exact .inl (.refl _)
  | goAway error => exact .inl (changes_goAway hub error key).rests
  | closeSenders => exact .inl (changes_closeSenders hub key).rests
  | dropManager =>
      exact .inl (Changes.rests ((changes_closeSenders hub key).trans (changes_clearTasks
        { hub.closeSenders with manager := { hub.manager with streams := ∅ } } key)))
  | dropStream other =>
      left
      simp only [Hub.step]
      split
      · by_cases own : key = other
        · subst own
          simp only [dropStream, setEnd_ends, Function.update_self]
          exact ⟨rfl, rfl, rfl, fun ended => ended⟩
        · simp only [dropStream, setEnd_ends, Function.update_of_ne own]
          exact .refl _
      · exact .refl _
  | pollRead other cx remaining => cases unpolled
  | pollWrite other cx buf => cases unpolled
  | pollFlush other => cases unpolled
  | pollShutdown other => cases unpolled

/-- A poll of one stream is no matter of another. -/
theorem ends_of_polls {hub : Hub} {op : HubOp} {key other : StreamKey}
    (polls : op.polls = some other) (ne : key ≠ other) :
    (hub.step op).ends key = hub.ends key := by
  cases op with
  | pollRead polled cx remaining =>
      obtain rfl := Option.some.inj polls
      simp only [Hub.step, pollRead]
      split
      · cases (hub.ends polled).stream.pollRead cx remaining with
        | error panic => rfl
        | ok outcome => exact Function.update_of_ne ne _ _
      · rfl
  | pollWrite polled cx buf =>
      obtain rfl := Option.some.inj polls
      simp only [Hub.step, pollWrite]
      split
      · cases (hub.ends polled).stream.pollWrite cx buf with
        | error panic => rfl
        | ok outcome => exact Function.update_of_ne ne _ _
      · rfl
  | pollFlush polled =>
      obtain rfl := Option.some.inj polls
      simp only [Hub.step]
      split
      · exact Function.update_of_ne ne _ _
      · rfl
  | pollShutdown polled =>
      obtain rfl := Option.some.inj polls
      simp only [Hub.step]
      split
      · exact Function.update_of_ne ne _ _
      · rfl
  | _ => cases polls

theorem rests_of_unpolled_at {hub : Hub} (addressed : hub.Addressed) {op : HubOp}
    {key : StreamKey} (unpolled : op.polls ≠ some key) : RestsOrNew hub (hub.step op) key := by
  cases polls : op.polls with
  | none => exact rests_of_unpolled addressed polls key
  | some other =>
      have ne : key ≠ other := fun own => unpolled (by rw [polls, own])
      left
      rw [ends_of_polls polls ne]
      exact .refl _

end Hub

namespace Session

open Hub in
theorem readerStep_unpolled {session : Session} (sound : session.SendingSound) :
    Moves (fun op => op.polls.isNone) session.hub session.readerStep.hub := by
  have of_step (op : HubOp) (unpolled : op.polls.isNone = true) {hub : Hub}
      (same : hub = session.hub.step op) :
      Moves (fun op => op.polls.isNone) session.hub hub := .inr ⟨op, unpolled, same⟩
  unfold readerStep
  split
  · rename_i frame reader
    split
    · rename_i newId key hub created
      apply of_step (.createStream (some frame.header.streamId) session.window false) rfl
      simp only [Hub.step, created]
    · exact .inl rfl
  · rename_i frame key reader
    split
    · exact .inl rfl
    · exact .inl rfl
    · exact of_step (.dropStream key) rfl rfl
  · split <;> exact .inl rfl
  · rename_i frame reader
    have free : session.hub.sending = none :=
      sound.free (by simp [reader, Reader.reads]) (by simp [reader])
    rcases route_cases session frame with ⟨hub, started, -, routed⟩ | ⟨error, -, -, routed⟩ |
      ⟨value, -, routed⟩ | ⟨-, ⟨error, routed⟩ | ⟨-, routed⟩⟩
    · rw [routed]
      apply of_step (.sendToStream frame) rfl
      simp only [Hub.step, free, started]
    · rw [routed]
      exact .inl rfl
    · rw [routed]
      exact .inl rfl
    · rw [routed]
      exact .inl rfl
    · rw [routed]
      exact .inl rfl
  · split
    · rename_i sending current
      have polled : session.hub.step .pollSendToStream =
          (session.hub.pollSendToStream sending).2 := by simp only [Hub.step, current]
      apply of_step .pollSendToStream rfl
      rw [polled]
      unfold pollSend
      split
      · rename_i answered
        rw [answered]
      · rename_i answered
        rw [answered]
      · rename_i answered
        rw [answered]
        rfl
    · exact .inl rfl
  · rename_i streamId reader
    exact of_step (.closeDataWrite streamId) rfl rfl
  · rename_i frame reader
    exact of_step (.sysSend frame) rfl rfl
  · rename_i error reader
    exact of_step (.goAway error) rfl rfl
  · exact of_step .closeSenders rfl rfl
  · exact .inl rfl

/-- The tasks of a session, and the application besides its streams, poll no stream. -/
theorem step_unpolled {session : Session} (sound : session.SendingSound) {op : SessionOp}
    (other : ∀ key use, op ≠ .stream key use) :
    Hub.Moves (fun op => op.polls.isNone) session.hub (session.step op).hub := by
  cases op with
  | recv bytes => exact .inl rfl
  | readFrame =>
      left
      simp only [step, readFrame]
      split
      · split <;> rfl
      · rfl
  | readEnd =>
      left
      simp only [step]
      split <;> rfl
  | readerStep => exact readerStep_unpolled sound
  | cancelReader =>
      simp only [step, cancelReader]
      split
      · exact .inl rfl
      · split
        · rename_i key _
          exact .inr ⟨.dropStream key, rfl, rfl⟩
        · exact .inl rfl
  | pollNext pick cx link =>
      simp only [step]
      split
      · right
        refine ⟨.pollNext pick cx, rfl, ?_⟩
        simp only [pollNext, Hub.step]
        split
        · rename_i polled
          rw [polled]
        · rename_i polled
          rw [polled]
          split <;> rfl
        · rename_i polled
          rw [polled]
      · exact .inl rfl
  | cancelWriter =>
      left
      simp only [step]
      split <;> rfl
  | serveOpen =>
      simp only [step, serveOpen]
      split
      · split
        · rename_i created
          refine .inr ⟨.createStream none session.window true, rfl, ?_⟩
          simp only [Hub.step, created]
        · exact .inl rfl
      · exact .inl rfl
  | «open» =>
      left
      simp only [step]
      split <;> rfl
  | closeSend error message =>
      exact .inr ⟨.sysSend (.goaway (Constrained.clamp 0) error message), rfl, rfl⟩
  | closeStore =>
      left
      simp only [step]
      split <;> rfl
  | accept cx =>
      left
      simp only [step]
      split <;> rfl
  | dropAccept => exact .inl rfl
  | dropAccepted =>
      simp only [step]
      split
      · rename_i key rest _ _
        exact .inr ⟨.dropStream key, rfl, rfl⟩
      · exact .inl rfl
  | stream key use => exact absurd rfl (other key use)
  | dropManager =>
      simp only [step]
      split
      · exact .inr ⟨.dropManager, rfl, rfl⟩
      · exact .inl rfl

/-- A stream rests in every step in which it is not polled. -/
theorem rests_of_unpolled {session : Session} (lawful : session.Lawful) {op : SessionOp}
    {key : StreamKey}
    (unpolled : ∀ use, op = .stream key use → (use.toHubOp key).polls = none) :
    Hub.RestsOrNew session.hub (session.step op).hub key := by
  by_cases uses : ∃ other use, op = .stream other use
  · obtain ⟨other, use, rfl⟩ := uses
    simp only [step]
    split
    · apply Hub.rests_of_unpolled_at lawful.addressed
      intro polls
      obtain rfl : other = key := by
        cases use with
        | drop => cases polls
        | _ => exact Option.some.inj polls
      rw [unpolled use rfl] at polls
      cases polls
    · exact .inl (.refl _)
  · obtain same | ⟨hubOp, nothing, same⟩ := step_unpolled lawful.sending
      fun other use is => uses ⟨other, use, is⟩
    · rw [same]
      exact .inl (.refl _)
    · rw [same]
      exact Hub.rests_of_unpolled lawful.addressed (Option.isNone_iff_eq_none.1 nothing) key

theorem step_nextKey_le {session : Session} (lawful : session.Lawful) (op : SessionOp) :
    session.hub.nextKey ≤ (session.step op).hub.nextKey := by
  obtain same | ⟨hubOp, same, -⟩ := (step_spec lawful.sending op).hub
  · rw [same]
  · rw [same]
    exact session.hub.step_nextKey_le hubOp

end Session

namespace Connection

variable {conn : Connection}

/-- A stream rests in every step of a connection in which it is not polled. -/
theorem rests_of_unpolled (lawful : ∀ side, (conn side).Lawful) {op : ConnectionOp} {side : Side}
    {key : StreamKey} (unpolled : ∀ use, op = .act side (.stream key use) →
      (use.toHubOp key).polls = none) :
    Hub.RestsOrNew (conn side).hub (conn.step op side).hub key := by
  cases op with
  | act actor op =>
      by_cases received : ∃ bytes, op = .recv bytes
      · obtain ⟨bytes, rfl⟩ := received
        exact .inl (.refl _)
      · rw [step_act fun bytes is => received ⟨bytes, is⟩]
        by_cases own : side = actor
        · subst own
          rw [Function.update_self]
          exact Session.rests_of_unpolled (lawful side) fun use is => unpolled use (by rw [is])
        · rw [Function.update_of_ne own]
          exact .inl (.refl _)
  | transport actor count =>
      by_cases own : side = actor
      · subst own
        simp only [step, Function.update_self]
        exact .inl (.refl _)
      · rw [Side.eq_other_of_ne own]
        simp only [step, Function.update_of_ne actor.other_ne, Function.update_self]
        exact .inl (.refl _)

theorem step_nextKey_le (lawful : ∀ side, (conn side).Lawful) (op : ConnectionOp) (side : Side) :
    (conn side).hub.nextKey ≤ (conn.step op side).hub.nextKey := by
  cases op with
  | act actor op =>
      by_cases received : ∃ bytes, op = .recv bytes
      · obtain ⟨bytes, rfl⟩ := received
        exact Nat.le_refl _
      · rw [step_act fun bytes is => received ⟨bytes, is⟩]
        by_cases own : side = actor
        · subst own
          rw [Function.update_self]
          exact Session.step_nextKey_le (lawful side) op
        · rw [Function.update_of_ne own]
  | transport actor count =>
      by_cases own : side = actor
      · subst own
        simp only [step, Function.update_self]
        exact Nat.le_refl _
      · rw [Side.eq_other_of_ne own]
        simp only [step, Function.update_of_ne actor.other_ne, Function.update_self]
        exact Nat.le_refl _

end Connection

end Muxado

end NgrokRust
