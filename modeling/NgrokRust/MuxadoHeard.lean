import NgrokRust.MuxadoReceiveWindow
import NgrokRust.MuxadoStreamPairs

/-!
# What a stream hears from its twin

The frames that a session has handled are a prefix of what its peer has yielded, so those
of one stream are a prefix of what that stream has sent.  `Heard` names them from the side
of the receiving stream, and `Meets` lists what a step can do with a stream and what it
has heard: only a poll of `send_to_stream` adds a frame, and it finds the stream at its
handle if the stream is registered.
-/

namespace NgrokRust

namespace Muxado

open LabelledRuns

def HubOp.closing : HubOp → Bool
  | goAway _ | closeSenders | dropManager => true
  | _ => false

theorem HubOp.closing_of_gentle {op : HubOp} (gentle : op.gentle = true) : op.closing = false := by
  cases op <;> first | rfl | cases gentle

theorem StreamFrame.body_ne_rst {frame : Frame} (shape : StreamFrame frame) (error : Error) :
    frame.body ≠ .rst error := by
  intro reset
  rcases shape.deliverable with ⟨bytes, body⟩ | ⟨increment, body⟩
  · rw [reset] at body
    cases body
  · rw [reset] at body
    cases body

namespace Sending

variable {sending : Sending}

/-- A frame of a stream that violates a window carries data, and is answered with a
reset. -/
theorem resets_of_overflow {handle : StreamHandle} (shape : StreamFrame sending.frame)
    (shrinks : sending.shrinkWindow ≤ sending.frame.payload.length)
    (overflow : handle.window < sending.shrinkWindow) : sending.resets = true := by
  have carries : sending.frame.payload ≠ [] := by
    intro empty
    rw [empty, List.length_nil] at shrinks
    omega
  have isData : sending.frame.isData = true := by
    by_contra notData
    exact carries (WriteHistory.payload_of_not_data (by simpa using notData))
  have notFin : sending.frame.isFin = false := by
    by_contra isFin
    exact carries (shape.fin_data (by simpa using isFin)).2
  have typ := shape.typ_eq
  rcases shape.deliverable with ⟨bytes, body⟩ | ⟨increment, body⟩
  · rw [body] at typ
    simp [resets, isFin, notFin, typ, Body.headerType]
  · simp [Frame.isData, body] at isData

theorem empty_of_keeps (shape : StreamFrame sending.frame)
    (typ : sending.frame.header.typ = .data) (keeps : sending.resets = false) :
    sending.frame.payload = [] ∧ sending.frame.credit = 0 := by
  have typ_eq := shape.typ_eq
  rcases shape.deliverable with ⟨bytes, body⟩ | ⟨increment, body⟩
  · simp [resets, isFin, typ, body, Body.len] at keeps
    simp [Frame.payload, Frame.credit, body, Body.payload, Body.credit, keeps.2]
  · simp [typ, body, Body.headerType] at typ_eq

end Sending

/-- A stream only receives a frame in progress for its id, while it is registered. -/
theorem Hub.EntryStep.recvd {hub hub' : Hub} {key : StreamKey} {op : HubOp}
    (step : hub.EntryStep key op hub') : (hub'.ends key).recvd = (hub.ends key).recvd ∨
      ∃ sending handle, hub.sending = some sending ∧
        sending.frame.header.streamId = (hub.ends key).id ∧ hub.entry key = some handle ∧
        (∀ error, sending.frame.body ≠ .rst error) ∧
        (hub'.ends key).recvd = (hub.ends key).recvd ++ [sending.frame] := by
  cases step with
  | keeps unsent same changes => exact Or.inl changes.application_keeps.2.2.2.1
  | emits _ _ _ _ _ _ _ target => rw [target]; exact Or.inl rfl
  | finishes _ _ _ _ _ _ _ _ target => rw [target]; exact Or.inl rfl
  | ends _ _ _ _ _ _ _ target => rw [target]; exact Or.inl rfl
  | leaves _ _ _ recvd _ => exact Or.inl recvd
  | closesWrite _ _ _ _ target => rw [target]; exact Or.inl rfl
  | silences _ _ target => rw [target]; exact Or.inl rfl
  | sends is sending current own handle found handle' sending' spec found' after =>
      generalize hub'.ends key = target at spec ⊢
      generalize (hub.pollSendToStream sending).1 = polled at spec
      cases spec with
      | delivered accepts body fits isOpen =>
          exact Or.inr ⟨sending, handle, current, own, found, body, rfl⟩
      | _ => exact Or.inl rfl

namespace Session

/-- What a step does with the frame in progress and the frames handled. -/
inductive Progresses (session session' : Session) : Prop where
  | keeps (handled : session'.handled = session.handled)
      (sending : session'.hub.sending = session.hub.sending)
      (hub : session'.hub = session.hub ∨
        ∃ op, session'.hub = session.hub.step op ∧ op ≠ .pollSendToStream ∧
          (op.closing = true →
            session'.reader.ended = true ∨ ∃ error, session.reader = .goingAway error))
  | routes (frame : Frame) (reader : session.reader = .routing frame)
      (typ : frame.header.typ ≠ .goAway) (routable : frame.body.routable = true)
      (handled : session'.handled = session.handled)
      (sending : session'.hub.sending = some (Sending.new frame routable))
      (hub : session'.hub = session.hub.step (.sendToStream frame))
  | waits (sending : Sending) (current : session.hub.sending = some sending)
      (pending : (session.hub.pollSendToStream sending).1 = .pending)
      (handled : session'.handled = session.handled)
      (hub : session'.hub = session.hub.step .pollSendToStream)
  | settles (sending : Sending) (current : session.hub.sending = some sending)
      (answered : (session.hub.pollSendToStream sending).1 ≠ .pending)
      (handled : session'.handled = session.handled ++ [sending.frame])
      (hub : session'.hub = session.hub.step .pollSendToStream)
      (replies : ∀ error, (session.hub.pollSendToStream sending).1 = .ready (.error error) →
        ∃ reply, session'.reader = .sysSending reply)
  /-- A frame that is no stream's is answered at once. -/
  | answers (frame : Frame) (reader : session.reader = .routing frame)
      (typ : frame.header.typ ≠ .goAway)
      (misrouted : frame.body.routable = false ∨ ∃ value, frame.header.typ = .invalid value)
      (handled : session'.handled = session.handled ++ [frame])
      (hub : session'.hub = session.hub)

theorem StepSpec.progresses {session session' : Session} {op : SessionOp}
    (spec : StepSpec session op session') : session.Progresses session' := by
  have of_same (handled : session'.handled = session.handled)
      (hub : session'.hub = session.hub) : session.Progresses session' :=
    .keeps handled (by rw [hub]) (Or.inl hub)
  have of_step (hubOp : HubOp) (handled : session'.handled = session.handled)
      (hub : session'.hub = session.hub.step hubOp) (start : ∀ frame, hubOp ≠ .sendToStream frame)
      (poll : hubOp ≠ .pollSendToStream) (closing : hubOp.closing = true →
        session'.reader.ended = true ∨ ∃ error, session.reader = .goingAway error) :
      session.Progresses session' :=
    .keeps handled (by rw [hub]; exact Hub.step_sending start poll)
      (Or.inr ⟨hubOp, hub, poll, closing⟩)
  have of_moves (handled : session'.handled = session.handled)
      (moves : Hub.Moves HubOp.neutral session.hub session'.hub)
      (ended : session'.reader.ended = true) : session.Progresses session' := by
    rcases moves with same | ⟨hubOp, neutral, hub⟩
    · exact of_same handled same
    · refine of_step hubOp handled hub ?_ ?_ (fun _ => Or.inl ended)
      · rintro frame rfl
        cases neutral
      · rintro rfl
        cases neutral
  have of_gentle (handled : session'.handled = session.handled)
      (moves : Hub.Moves HubOp.gentle session.hub session'.hub) : session.Progresses session' := by
    rcases moves with same | ⟨hubOp, gentle, hub⟩
    · exact of_same handled same
    · refine of_step hubOp handled hub ?_ ?_ ?_
      · rintro frame rfl
        cases gentle
      · rintro rfl
        cases gentle
      · rw [HubOp.closing_of_gentle gentle]
        exact fun closes => by cases closes
  cases spec with
  | recv _ => exact of_same rfl rfl
  | waits _ _ _ _ => exact of_same rfl rfl
  | takes _ _ _ _ _ => exact of_same rfl rfl
  | accepts frame reader newId key hub created =>
      refine of_step (.createStream (some frame.header.streamId) session.window false) rfl ?_
        (by simp) (by simp) (by simp [HubOp.closing])
      simp only [Hub.step, created]
  | advances _ _ _ _ _ _ _ _ _ hub rest => exact of_same rest.handled hub
  | routes frame reader typ free routable =>
      refine .routes frame reader typ routable rfl rfl ?_
      simp only [Hub.step, free, Hub.startSendToStream, dif_pos routable]
  | pends frame reader sending current own hub polled =>
      refine .waits sending current (by rw [polled]) rfl ?_
      simp only [Hub.step, current, polled]
  | delivers frame reader sending current own hub polled =>
      refine .settles sending current (by simp [polled]) (by rw [own]) ?_ (by simp [polled])
      simp only [Hub.step, current, polled]
  | refuses frame reader sending current own error hub polled =>
      refine .settles sending current (by simp [polled]) (by simp [answer, own]) ?_ ?_
      · simp only [Hub.step, current, polled, answer]
      · exact fun _ _ => ⟨_, rfl⟩
  | answers frame reader reply typ misrouted own => exact .answers frame reader typ misrouted rfl rfl
  | closes streamId reader =>
      exact of_step (.closeDataWrite streamId) rfl rfl (by simp) (by simp) (by simp [HubOp.closing])
  | replies frame reader =>
      exact of_step (.sysSend frame) rfl rfl (by simp) (by simp) (by simp [HubOp.closing])
  | closeSends error message =>
      exact of_step (.sysSend (.goaway _ error message)) rfl rfl (by simp) (by simp)
        (by simp [HubOp.closing])
  | leaves _ _ _ _ _ _ hub rest =>
      rcases hub with moves | ⟨error, reader, gone⟩
      · exact of_gentle rest.handled moves
      · exact of_step (.goAway error) rest.handled gone (by simp) (by simp)
          (fun _ => Or.inr ⟨error, reader⟩)
  | ends _ _ ended _ hub rest => exact of_moves rest.handled hub ended
  | polls pick cx link _ running hub quiet reader rest =>
      exact of_step (.pollNext pick cx) rest.handled hub (by simp) (by simp) (by simp [HubOp.closing])
  | emits pick cx link running frame hub polled =>
      refine of_step (.pollNext pick cx) rfl ?_ (by simp) (by simp) (by simp [HubOp.closing])
      simp only [Hub.step, polled]
  | serves running requested newId key hub created =>
      refine of_step (.createStream none session.window true) rfl ?_ (by simp) (by simp)
        (by simp [HubOp.closing])
      simp only [Hub.step, created]
  | outside _ _ reader hub rest =>
      rcases hub with moves | ⟨ended, gone⟩
      · exact of_gentle rest.handled moves
      · exact of_step .dropManager rest.handled gone (by simp) (by simp)
          (fun _ => Or.inl (reader ▸ ended))

/-- The frame in progress is the next one of the peer, and what it has still to take out
of a window is no more than it carries. -/
def InProgress (peer session : Session) : Prop :=
  ∀ sending, session.hub.sending = some sending →
    (∃ origin, peer.hub.emitted[session.handled.length]? = some (origin, sending.frame)) ∧
      sending.shrinkWindow ≤ sending.frame.payload.length

variable {peer session : Session} {op : SessionOp}

namespace InProgress

theorem receive (progress : InProgress peer session) (linked : Linked peer session)
    (op : SessionOp) : InProgress peer (session.step op) := by
  have spec := session.step_spec linked.lawful.sending op
  generalize session.step op = session' at spec
  intro sending current'
  cases spec.progresses with
  | keeps handled same hub =>
      rw [handled]
      exact progress sending (same ▸ current')
  | routes frame reader typ routable handled same hub =>
      rw [same] at current'
      obtain rfl := Option.some.inj current'
      have follows : session.reader.follows = true := by
        rw [reader]
        simpa [Reader.follows] using typ
      obtain ⟨-, origin, at_⟩ := linked.forth.hand follows frame (by rw [reader]; rfl)
      rw [handled]
      exact ⟨⟨origin, at_⟩, (Sending.new_shrinkWindow frame routable).le⟩
  | waits earlier current pending handled hub =>
      obtain ⟨at_, -⟩ := progress earlier current
      have spec := session.hub.pollSendToStream_spec earlier
      rw [hub] at current'
      simp only [Hub.step, current] at current'
      rw [handled]
      generalize session.hub.pollSendToStream earlier = outcome at spec pending current'
      cases spec with
      | waiting handle found accepts body fits =>
          obtain rfl := Option.some.inj current'
          exact ⟨at_, Nat.zero_le _⟩
      | _ => cases pending
  | settles earlier current answered handled hub replies =>
      rw [hub] at current'
      simp only [Hub.step, current] at current'
      cases polled : session.hub.pollSendToStream earlier with
      | mk result hub' =>
          cases result with
          | pending => simp [polled] at answered
          | ready result =>
              rw [polled, Hub.sending_of_pollSendToStream polled] at current'
              cases current'
  | answers frame reader typ misrouted handled hub =>
      have free := linked.lawful.sending.free (by rw [reader]; rfl) (by rw [reader]; simp)
      rw [hub, free] at current'
      cases current'

theorem send (progress : InProgress session peer) (lawful : session.Lawful) (op : SessionOp) :
    InProgress (session.step op) peer := by
  intro sending current
  obtain ⟨⟨origin, at_⟩, shrinks⟩ := progress sending current
  have longer := (session.step_spec lawful.sending op).emitted_grows
  exact ⟨⟨origin, getElem?_of_longer longer at_⟩, shrinks⟩

/-- The frame in progress is one of a stream of the peer, or a reset. -/
theorem origin (progress : InProgress peer session) (linked : Linked peer session)
    {sending : Sending} (current : session.hub.sending = some sending) :
    (∃ key', peer.hub.emitted[session.handled.length]? = some (some key', sending.frame) ∧
        StreamFrame sending.frame) ∨
      peer.hub.emitted[session.handled.length]? = some (none, sending.frame) ∧
        ∃ error, sending.frame.body = .rst error := by
  obtain ⟨⟨origin, at_⟩, -⟩ := progress sending current
  have member := List.mem_of_getElem? at_
  cases origin with
  | some key' =>
      exact Or.inl ⟨key', at_, (linked.peerLawful.writeHistory key').shape _
        (linked.peerLawful.mem_outgoing member)⟩
  | none =>
      obtain ⟨system, -, own⟩ := linked.peerWired.yielded _ member
      cases system with
      | rst streamId error => exact Or.inr ⟨at_, error, by rw [own]; rfl⟩
      | goaway _ _ _ =>
          have routable := sending.routable
          rw [own] at routable
          cases routable

end InProgress

/-- A registered stream with the id of the frame in progress is the twin of the frame's
sender. -/
theorem Paired.twins_of_progress {id : StreamID} (paired : Paired id peer session)
    {sending : Sending} {key' key : StreamKey} {handle : StreamHandle}
    (at_ : peer.hub.emitted[session.handled.length]? = some (some key', sending.frame))
    (own : sending.frame.header.streamId = (session.hub.ends key).id)
    (ownKey : (session.hub.ends key).id = id) (found : session.hub.entry key = some handle) :
    Twins peer session key' key := by
  obtain ⟨registered, is⟩ := Hub.entry_eq_some.mp found
  exact paired.twins (Or.inr ⟨sending.frame, mem_inFlight at_, own.trans ownKey⟩)
    (Or.inl ⟨handle, ownKey ▸ registered, is⟩)

def Silent (id : StreamID) (peer session : Session) : Prop :=
  ∀ key < session.hub.nextKey, (session.hub.ends key).id = id →
    (∀ key', ¬ Twins peer session key' key) → (session.hub.ends key).recvd = []

/-- What is known of the streams with an id of two connected sessions. -/
structure Coupled (id : StreamID) (peer session : Session) : Prop where
  related : Related peer session
  paired : Paired id peer session
  progressPeer : InProgress session peer
  progress : InProgress peer session
  silentPeer : Silent id session peer
  silent : Silent id peer session

namespace Coupled

variable {id : StreamID}

theorem symm (coupled : Coupled id peer session) : Coupled id session peer :=
  ⟨coupled.related.symm, coupled.paired.symm, coupled.progress, coupled.progressPeer,
    coupled.silent, coupled.silentPeer⟩

/-- A step is one operation on the hub, and one of the cases of `EntryStep` for every
existing stream with the id. -/
theorem entryStep (coupled : Coupled id peer session) (unused : opensUnusedAt id peer session op)
    {hubOp : HubOp} (hub : (session.step op).hub = session.hub.step hubOp) {key : StreamKey}
    (existing : key < session.hub.nextKey) (own : (session.hub.ends key).id = id) :
    session.hub.EntryStep key hubOp (session.step op).hub := by
  have idle := coupled.paired.idle coupled.related unused hub
  rw [hub]
  refine Hub.step_entry coupled.related.linked.lawful.addressed ?_ existing ?_
  · rw [own]
    exact coupled.paired.owned
  · rw [own]
    exact idle

/-- A new stream is opened at the next key. -/
theorem opened (coupled : Coupled id peer session) (op : SessionOp) {key : StreamKey}
    (new : session.hub.nextKey ≤ key) (existing : key < (session.step op).hub.nextKey) :
    key = session.hub.nextKey ∧ ∃ id' needsSyn,
      (session.step op).hub.ends key = StreamEnd.create id' session.window needsSyn ∧
      (session.step op).hub.entry key = some ⟨key, true, false, session.window⟩ := by
  have lawful := coupled.related.linked.lawful
  have spec := session.step_spec lawful.sending op
  have lawful' := lawful.step op
  generalize session.step op = session' at spec lawful' existing
  have created {remote : Option StreamID} {needsSyn : Bool} {newId : StreamID}
      {newKey : StreamKey}
      (created : session.hub.createStream remote session.window needsSyn =
        .ok (newId, newKey, session'.hub)) :
      key = session.hub.nextKey ∧ ∃ id' needsSyn,
        session'.hub.ends key = StreamEnd.create id' session.window needsSyn ∧
        session'.hub.entry key = some ⟨key, true, false, session.window⟩ := by
    obtain ⟨-, rfl, nextKey, -, ends, streams, -⟩ := Hub.createStream_eq_ok created
    rw [nextKey] at existing
    obtain rfl : key = session.hub.nextKey := Nat.le_antisymm (Nat.lt_succ_iff.mp existing) new
    have target : session'.hub.ends session.hub.nextKey =
        StreamEnd.create newId session.window needsSyn := by rw [ends, Function.update_self]
    refine ⟨rfl, newId, needsSyn, target, Hub.entry_eq_some.mpr ⟨?_, rfl⟩⟩
    rw [target, Hub.getStream, streams]
    exact AList.lookup_insert _
  cases spec.opens lawful.addressed with
  | evolves evolves _ =>
      rw [evolves.nextKey] at existing
      exact absurd existing (Nat.not_lt.mpr new)
  | accepts _ _ _ _ opened _ _ _ => exact created opened
  | serves _ _ _ _ opened _ _ _ => exact created opened

theorem silent_step (coupled : Coupled id peer session)
    (unused : opensUnusedAt id peer session op) : Silent id peer (session.step op) := by
  intro key existing' own' alone
  rcases Nat.lt_or_ge key session.hub.nextKey with existing | new
  · have lawful := coupled.related.linked.lawful
    have spec := session.step_spec lawful.sending op
    have own := (spec.id lawful existing).symm.trans own'
    have alone : ∀ key', ¬ Twins peer session key' key := fun key' twins =>
      alone key' ((coupled.related.twins_step op existing).mpr twins)
    have before := coupled.silent key existing own alone
    rcases spec.hub with same | ⟨hubOp, hub, -⟩
    · rw [same]
      exact before
    · rcases (coupled.entryStep unused hub existing own).recvd with same |
        ⟨sending, handle, current, ownFrame, found, body, -⟩
      · rw [same]
        exact before
      · rcases coupled.progress.origin coupled.related.linked current with ⟨key', at_, -⟩ | ⟨-, reset⟩
        · exact absurd (coupled.paired.twins_of_progress at_ ownFrame own found) (alone key')
        · obtain ⟨error, reset⟩ := reset
          exact absurd reset (body error)
  · obtain ⟨-, id', needsSyn, target, -⟩ := coupled.opened op new existing'
    rw [target]
    rfl

theorem silentPeer_step (coupled : Coupled id peer session) (op : SessionOp) :
    Silent id (session.step op) peer := by
  intro key' existing own alone
  refine coupled.silentPeer key' existing own fun key twins => alone key ?_
  have existing := (coupled.related.symm.twins_id twins).1
  exact ((coupled.related.twins_step op existing).mpr twins.symm).symm

theorem act (coupled : Coupled id peer session) (unused : opensUnusedAt id peer session op)
    (related' : Related peer (session.step op)) : Coupled id peer (session.step op) where
  related := related'
  paired := coupled.paired.act coupled.related unused
  progressPeer := coupled.progressPeer.send coupled.related.linked.lawful op
  progress := coupled.progress.receive coupled.related.linked op
  silentPeer := coupled.silentPeer_step op
  silent := coupled.silent_step unused

end Coupled

def handledOf (peer session : Session) (key' : StreamKey) : List Frame :=
  Hub.framesOf key' (peer.hub.emitted.take session.handled.length)

def Heard (peer session : Session) (key : StreamKey) (frames : List Frame) : Prop :=
  (∃ key', Twins peer session key' key ∧ frames = handledOf peer session key') ∨
    (∀ key', ¬ Twins peer session key' key) ∧ frames = []

theorem exists_heard (peer session : Session) (key : StreamKey) :
    ∃ frames, Heard peer session key frames := by
  by_cases twins : ∃ key', Twins peer session key' key
  · obtain ⟨key', twins⟩ := twins
    exact ⟨_, Or.inl ⟨key', twins, rfl⟩⟩
  · exact ⟨[], Or.inr ⟨not_exists.mp twins, rfl⟩⟩

theorem framesOf_emitted (peer session : Session) (key' : StreamKey) :
    Hub.framesOf key' peer.hub.emitted =
      handledOf peer session key' ++ Hub.framesOf key' (inFlight peer session) := by
  rw [handledOf, inFlight, ← Hub.framesOf_append, List.take_append_drop]

theorem handledOf_settled {session' : Session} {frame : Frame} {origin : Option StreamKey}
    (handled : session'.handled = session.handled ++ [frame])
    (at_ : peer.hub.emitted[session.handled.length]? = some (origin, frame)) (key' : StreamKey) :
    handledOf peer session' key' =
      handledOf peer session key' ++ Hub.framesOf key' [(origin, frame)] := by
  rw [handledOf, handledOf, ← Hub.framesOf_append, handled, List.length_append,
    List.length_singleton, List.take_add_one, at_]
  rfl

theorem handledOf_send (linked : Linked peer session) (op : SessionOp) (key : StreamKey) :
    handledOf (session.step op) peer key = handledOf session peer key := by
  obtain ⟨rest, longer⟩ := (session.step_spec linked.lawful.sending op).emitted_grows
  rw [handledOf, handledOf, ← longer, List.take_append_of_le_length linked.back.handled_le]

/-- The sender of a SYN that creates a stream has yielded nothing before it. -/
theorem Coupled.handledOf_opening {id : StreamID} (coupled : Coupled id peer session)
    {key' : StreamKey} {frame : Frame} (syn : frame.isSyn = true)
    (at_ : peer.hub.emitted[session.handled.length]? = some (some key', frame))
    (own : (peer.hub.ends key').id = id) (alone : ∀ key, ¬ Twins peer session key' key) :
    handledOf peer session key' = [] := by
  have lawful := coupled.related.linked.peerLawful
  have existing := (lawful.addressed.emitted key' frame (List.mem_of_getElem? at_)).1
  have silent : (peer.hub.ends key').recvd = [] :=
    coupled.silentPeer key' existing own fun key twins => alone key twins.symm
  -- no increment was sent, since nothing was received
  have spent : credits (handledOf peer session key') = 0 := by
    obtain ⟨sent, returned⟩ :=
      Hub.ReceiveLaw.credits_le (lawful.creditHistory key') (lawful.readHistory key')
    rw [lawful.addressed.sent key', framesOf_emitted peer session key', credits_append] at sent
    rw [silent] at returned
    have none : (payloads ([] : List Frame)).length = 0 := rfl
    omega
  refine List.eq_nil_iff_forall_not_mem.mpr fun earlier member => ?_
  have inEmitted := Hub.mem_framesOf.mp member
  obtain ⟨index, before, is⟩ := List.mem_take_iff_getElem.mp inEmitted
  -- and no data was sent before the SYN
  have notData : earlier.isData = false := by
    have ordered := lawful.sent_pairwise key' (lawful.writeHistory key').synFirst
    obtain ⟨inside, last⟩ := List.getElem?_eq_some_iff.mp at_
    have related := List.pairwise_iff_getElem.mp ordered index session.handled.length (by omega)
      inside (by omega) (by rw [is]) (by rw [last]) (by rw [last]; exact syn)
    rw [is] at related
    exact related.1
  have shape := (lawful.writeHistory key').shape earlier
    (lawful.mem_outgoing (List.mem_of_mem_take inEmitted))
  have positive := shape.credit_pos notData
  obtain ⟨front, back, split⟩ := List.append_of_mem member
  rw [split, credits_append, credits_cons] at spent
  omega

namespace Heard

variable {id : StreamID} {key : StreamKey} {frames : List Frame}

/-- A stream hears nothing in a step of the peer. -/
theorem of_send (heard : Heard (session.step op) peer key frames)
    (related : Related peer session) (related' : Related peer (session.step op)) :
    Heard session peer key frames := by
  rcases heard with ⟨key', twins, rfl⟩ | ⟨alone, rfl⟩
  · rw [handledOf_send related.linked]
    rcases Nat.lt_or_ge key' session.hub.nextKey with existing | new
    · exact Or.inl ⟨key', ((related.twins_step op existing).mp twins.symm).symm, rfl⟩
    · right
      constructor
      · intro other twins'
        have existing := (related.symm.twins_id twins').1
        have later := ((related.twins_step op existing).mpr twins'.symm).symm
        rw [related'.symm.twins_unique later twins] at existing
        exact absurd existing (Nat.not_lt.mpr new)
      · refine List.eq_nil_iff_forall_not_mem.mpr fun frame member => ?_
        have inEmitted := List.mem_of_mem_take (Hub.mem_framesOf.mp member)
        have existing := (related.linked.lawful.addressed.emitted key' frame inEmitted).1
        exact absurd existing (Nat.not_lt.mpr new)
  · refine Or.inr ⟨fun other twins => alone other ?_, rfl⟩
    have existing := (related.symm.twins_id twins).1
    exact ((related.twins_step op existing).mpr twins.symm).symm

end Heard

def Unheard (hub : Hub) (key : StreamKey) (op : HubOp) : Prop :=
  op = .pollSendToStream → ∀ sending, hub.sending = some sending →
    hub.entry key = none ∨ sending.frame.header.streamId ≠ (hub.ends key).id ∨
      (hub.pollSendToStream sending).1 = .pending ∨ ∃ error, sending.frame.body = .rst error

/-- What a step of a session means for a stream and for the frames it has heard
afterwards. -/
inductive Meets (id : StreamID) (peer session session' : Session) (key : StreamKey)
    (frames' : List Frame) : Prop where
  /-- The stream is new. -/
  | opens (needsSyn : Bool)
      (target : session'.hub.ends key = StreamEnd.create id session.window needsSyn)
      (found : session'.hub.entry key = some ⟨key, true, false, session.window⟩)
      (silent : frames' = [])
  | stays (existing : key < session.hub.nextKey) (heard : Heard peer session key frames')
      (hub : session'.hub = session.hub)
  | passes (existing : key < session.hub.nextKey) (heard : Heard peer session key frames')
      (op : HubOp) (hub : session'.hub = session.hub.step op) (unheard : Unheard session.hub key op)
      (closing : op.closing = true →
        session'.reader.ended = true ∨ ∃ error, session.reader = .goingAway error)
      (step : session.hub.EntryStep key op session'.hub)
  /-- The frame in progress is answered for. -/
  | hears (existing : key < session.hub.nextKey) (frames : List Frame)
      (heard : Heard peer session key frames) (sending : Sending)
      (current : session.hub.sending = some sending) (shape : StreamFrame sending.frame)
      (frames_eq : frames' = frames ++ [sending.frame])
      (own : sending.frame.header.streamId = (session.hub.ends key).id)
      (shrinks : sending.shrinkWindow ≤ sending.frame.payload.length)
      (answered : (session.hub.pollSendToStream sending).1 ≠ .pending)
      (replies : ∀ error, (session.hub.pollSendToStream sending).1 = .ready (.error error) →
        ∃ reply, session'.reader = .sysSending reply)
      (hub : session'.hub = session.hub.step .pollSendToStream)
      (step : session.hub.EntryStep key .pollSendToStream session'.hub)

/-- The frame in progress is settled: the twin of its sender has heard it, and no other
stream. -/
theorem Coupled.meets_settled {id : StreamID} (coupled : Coupled id peer session)
    {session' : Session} {key : StreamKey} {frames' : List Frame}
    (existing : key < session.hub.nextKey) (own : (session.hub.ends key).id = id)
    (twins_iff : ∀ key', Twins peer session' key' key ↔ Twins peer session key' key)
    (heard' : Heard peer session' key frames') {sending : Sending}
    (current : session.hub.sending = some sending)
    (answered : (session.hub.pollSendToStream sending).1 ≠ .pending)
    (handled : session'.handled = session.handled ++ [sending.frame])
    (hub : session'.hub = session.hub.step .pollSendToStream)
    (replies : ∀ error, (session.hub.pollSendToStream sending).1 = .ready (.error error) →
      ∃ reply, session'.reader = .sysSending reply)
    (step : session.hub.EntryStep key .pollSendToStream session'.hub) :
    Meets id peer session session' key frames' := by
  have related := coupled.related
  -- nothing is heard unless the sender is a twin
  have passes (heard : Heard peer session key frames')
      (other : ∀ key', peer.hub.emitted[session.handled.length]? = some (some key', sending.frame) →
        ¬ Twins peer session key' key) : Meets id peer session session' key frames' := by
    refine .passes existing heard .pollSendToStream hub (fun _ sending' current' => ?_)
      (fun closing => by cases closing) step
    obtain rfl := Option.some.inj (current.symm.trans current')
    rcases coupled.progress.origin related.linked current with ⟨key', at_, -⟩ | ⟨-, reset⟩
    · by_contra delivered
      simp only [not_or, not_not] at delivered
      obtain ⟨registered, ownFrame, -⟩ := delivered
      obtain ⟨handle, found⟩ := Option.ne_none_iff_exists'.mp registered
      exact other key' at_ (coupled.paired.twins_of_progress at_ ownFrame own found)
    · exact Or.inr (Or.inr (Or.inr reset))
  rcases heard' with ⟨key', twins, rfl⟩ | ⟨alone, rfl⟩
  · have twins := (twins_iff key').mp twins
    obtain ⟨⟨origin, at_⟩, shrinks⟩ := coupled.progress sending current
    by_cases from_twin : origin = some key'
    · subst from_twin
      have member := List.mem_of_getElem? at_
      have lawful := related.linked.peerLawful
      refine .hears existing _ (Or.inl ⟨key', twins, rfl⟩) sending current
        ((lawful.writeHistory key').shape _ (lawful.mem_outgoing member)) ?_ ?_ shrinks answered
        replies hub step
      · rw [handledOf_settled handled at_, Hub.framesOf_own]
      · exact (lawful.addressed.emitted key' _ member).2.trans (related.twins_id twins).2.2
    · have same : handledOf peer session' key' = handledOf peer session key' := by
        rw [handledOf_settled handled at_, Hub.framesOf_other from_twin, List.append_nil]
      rw [same] at passes ⊢
      refine passes (Or.inl ⟨key', twins, rfl⟩) fun other at_' twins' => ?_
      obtain ⟨is, -⟩ := Prod.mk.inj (Option.some.inj (at_.symm.trans at_'))
      rw [related.twins_unique twins' twins] at is
      exact from_twin is
  · have alone : ∀ key', ¬ Twins peer session key' key := fun key' twins =>
      alone key' ((twins_iff key').mpr twins)
    exact passes (Or.inr ⟨alone, rfl⟩) fun key' _ => alone key'

theorem Coupled.meets {id : StreamID} (coupled : Coupled id peer session)
    (unused : opensUnusedAt id peer session op) (related' : Related peer (session.step op))
    {key : StreamKey} {frames' : List Frame} (existing' : key < (session.step op).hub.nextKey)
    (own' : ((session.step op).hub.ends key).id = id)
    (heard' : Heard peer (session.step op) key frames') :
    Meets id peer session (session.step op) key frames' := by
  have related := coupled.related
  have lawful := related.linked.lawful
  have spec := session.step_spec lawful.sending op
  rcases Nat.lt_or_ge key session.hub.nextKey with existing | new
  · have own := (spec.id lawful existing).symm.trans own'
    have twins_iff (key' : StreamKey) :
        Twins peer (session.step op) key' key ↔ Twins peer session key' key :=
      related.twins_step op existing
    have before (handled : (session.step op).handled = session.handled) :
        Heard peer session key frames' := by
      refine heard'.imp ?_ ?_
      · rintro ⟨key', twins, rfl⟩
        refine ⟨key', (twins_iff key').mp twins, ?_⟩
        rw [handledOf, handledOf, handled]
      · rintro ⟨alone, rfl⟩
        exact ⟨fun key' twins => alone key' ((twins_iff key').mpr twins), rfl⟩
    cases spec.progresses with
    | keeps handled sending hub =>
        rcases hub with same | ⟨hubOp, hub, notPoll, closing⟩
        · exact .stays existing (before handled) same
        · exact .passes existing (before handled) hubOp hub (fun is => absurd is notPoll) closing
            (coupled.entryStep unused hub existing own)
    | routes frame _ _ _ handled _ hub =>
        exact .passes existing (before handled) _ hub (fun is => by cases is)
          (fun closing => by cases closing) (coupled.entryStep unused hub existing own)
    | waits sending current pending handled hub =>
        refine .passes existing (before handled) _ hub (fun _ sending' current' => ?_)
          (fun closing => by cases closing) (coupled.entryStep unused hub existing own)
        obtain rfl := Option.some.inj (current.symm.trans current')
        exact Or.inr (Or.inr (Or.inl pending))
    | settles sending current answered handled hub replies =>
        exact coupled.meets_settled existing own twins_iff heard' current answered handled hub
          replies (coupled.entryStep unused hub existing own)
    | answers frame reader typ misrouted handled hub =>
        refine .stays existing ?_ hub
        have follows : session.reader.follows = true := by
          rw [reader]
          simpa [Reader.follows] using typ
        obtain ⟨-, origin, at_⟩ := related.linked.forth.hand follows frame (by rw [reader]; rfl)
        -- such a frame is not a stream's
        have system (key' : StreamKey) : origin ≠ some key' := by
          rintro rfl
          have lawful' := related.linked.peerLawful
          have shape := (lawful'.writeHistory key').shape frame
            (lawful'.mem_outgoing (List.mem_of_getElem? at_))
          have typ_eq := shape.typ_eq
          rcases shape.deliverable with ⟨bytes, body⟩ | ⟨increment, body⟩ <;>
            rcases misrouted with not | ⟨value, invalid⟩ <;>
              simp_all [Body.routable, Body.headerType]
        refine heard'.imp ?_ ?_
        · rintro ⟨key', twins, rfl⟩
          refine ⟨key', (twins_iff key').mp twins, ?_⟩
          rw [handledOf_settled handled at_, Hub.framesOf_other (system key'), List.append_nil]
        · rintro ⟨alone, rfl⟩
          exact ⟨fun key' twins => alone key' ((twins_iff key').mpr twins), rfl⟩
  · obtain ⟨rfl, id', needsSyn, target, found⟩ := coupled.opened op new existing'
    obtain rfl : id' = id := by
      rw [target] at own'
      exact own'
    refine .opens needsSyn target found ?_
    · rcases heard' with ⟨key', twins, rfl⟩ | ⟨-, silent⟩
      · obtain ⟨frame, reader, handled, at_⟩ := related.twins_new op new twins
        have same : handledOf peer (session.step op) key' = handledOf peer session key' := by
          rw [handledOf, handledOf, handled]
        rw [same]
        refine coupled.handledOf_opening (related.forth.opening frame reader) at_
          ((related'.twins_id twins).2.2.trans own') fun key twins' => ?_
        -- a twin would be a second one
        have existing := (related.twins_id twins').2.1
        have later := (related.twins_step op existing).mpr twins'
        rw [related'.symm.twins_unique later.symm twins.symm] at existing
        exact absurd existing (Nat.lt_irrefl _)
      · exact silent

theorem Coupled.transport {id : StreamID} (coupled : Coupled id peer session) (count : Nat) :
    Coupled id (peer.handOver count) (session.step (.recv (peer.tx.take count))) where
  related := ⟨coupled.related.linked.transport count, { coupled.related.forth with },
    { coupled.related.back with }⟩
  paired := coupled.paired.transport count
  progressPeer := coupled.progressPeer
  progress := coupled.progress
  silentPeer := coupled.silentPeer
  silent := coupled.silent

end Session

open Session in
/-- If an id is not opened again while it is live, its streams are coupled in every
run. -/
theorem Connection.coupled_of_reaches {admits : Connection → ConnectionOp → Prop}
    {builder : Side → SessionBuilder} {conn : Connection} {id : StreamID}
    (unused : ∀ {conn side op}, admits conn (.act side op) →
      Session.opensUnusedAt id (conn side.other) (conn side) op)
    (runs : Reaches Connection.step admits (Connection.new builder) conn) (side : Side) :
    Coupled id (conn side.other) (conn side) := by
  refine pairs_invariant Related (Coupled id) (Session.opensUnusedAt id) unused
    related_of_reaches Coupled.symm ?_ ?_ ?_ runs side
  · intro side
    have start : Reaches Connection.step admits (Connection.new builder) (Connection.new builder) :=
      .refl
    refine ⟨related_of_reaches start side, paired_of_reaches unused start side, ?_, ?_, ?_, ?_⟩
    · exact fun sending current => by cases current
    · exact fun sending current => by cases current
    · exact fun key existing => absurd existing (Nat.not_lt_zero key)
    · exact fun key existing => absurd existing (Nat.not_lt_zero key)
  · intro peer session op _ unused _ related' coupled
    exact coupled.act unused related'
  · intro peer session count _ coupled
    exact coupled.transport count

open Session in
/-- A law of a stream and the frames it has heard holds in every run if every case of
`Meets` keeps it. Besides, what is known of every reachable pair may be used. -/
theorem Connection.heard_invariant {admits : Connection → ConnectionOp → Prop}
    {builder : Side → SessionBuilder} {conn : Connection} {id : StreamID}
    (Law : Hub → StreamKey → List Frame → Prop) (Known : Session → Session → Prop)
    (allows : Session → Session → SessionOp → Prop)
    (allowed : ∀ {conn side op}, admits conn (.act side op) →
      allows (conn side.other) (conn side) op)
    (unused : ∀ {peer session op}, allows peer session op →
      Session.opensUnusedAt id peer session op)
    (known : ∀ {conn}, Reaches step admits (new builder) conn →
      ∀ side, Known (conn side.other) (conn side))
    (meets : ∀ {peer session op key frames}, allows peer session op → Known peer session →
      Known peer (session.step op) → Coupled id peer session →
      ((session.step op).hub.ends key).id = id →
      Meets id peer session (session.step op) key frames →
      (∀ frames, key < session.hub.nextKey → Heard peer session key frames →
        Law session.hub key frames) → Law (session.step op).hub key frames)
    (runs : Reaches step admits (new builder) conn) (side : Side) {key : StreamKey}
    (existing : key < (conn side).hub.nextKey) (own : ((conn side).hub.ends key).id = id)
    {frames : List Frame} (heard : Heard (conn side.other) (conn side) key frames) :
    Law (conn side).hub key frames := by
  let Holds (peer session : Session) : Prop := ∀ key < session.hub.nextKey,
    (session.hub.ends key).id = id → ∀ frames, Heard peer session key frames →
      Law session.hub key frames
  have both : Holds (conn side.other) (conn side) ∧ Holds (conn side) (conn side.other) := by
    refine pairs_invariant (fun peer session => Known peer session ∧ Coupled id peer session)
      (fun peer session => Holds peer session ∧ Holds session peer) allows allowed
      (fun runs side => ⟨known runs side, coupled_of_reaches (fun admitted => unused (allowed admitted)) runs side⟩)
      And.symm ?_ ?_ ?_ runs side
    · intro side
      exact ⟨fun key existing => absurd existing (Nat.not_lt_zero key),
        fun key existing => absurd existing (Nat.not_lt_zero key)⟩
    · intro peer session op _ allow ⟨known, coupled⟩ ⟨known', coupled'⟩ ⟨forth, back⟩
      constructor
      · intro key existing own frames heard
        have how := coupled.meets (unused allow) coupled'.related existing own heard
        refine meets allow known known' coupled own how fun frames existing heard => ?_
        have spec := session.step_spec coupled.related.linked.lawful.sending op
        exact forth key existing ((spec.id coupled.related.linked.lawful existing).symm.trans own)
          frames heard
      · intro key existing own frames heard
        exact back key existing own frames (heard.of_send coupled.related coupled'.related)
    · intro peer session count _ ⟨forth, back⟩
      exact ⟨fun key existing own frames heard => forth key existing own frames heard,
        fun key existing own frames heard => back key existing own frames heard⟩
  exact both.1 key existing own frames heard

end Muxado

end NgrokRust
