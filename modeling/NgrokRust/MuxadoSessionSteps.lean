import NgrokRust.MuxadoManagerSteps
import NgrokRust.MuxadoSession

/-!
# What one step does to a session

Every step of a session acts on its hub by at most one operation, so whatever holds
in all runs of a hub holds in all runs of a session.  `StepSpec` lists the outcomes
of a step, with the cases that differ only inside the session taken together.
-/

namespace NgrokRust

namespace Muxado

open LabelledRuns

namespace HubOp

/-- The operation creates no stream and moves no frame in or out. -/
def neutral : HubOp → Bool
  | createStream _ _ _ => false
  | sendToStream _ => false
  | pollSendToStream => false
  | pollNext _ _ => false
  | sysSend _ => false
  | _ => true

/-- Moreover it closes no channel from the side of the session. -/
def gentle : HubOp → Bool
  | goAway _ => false
  | closeSenders => false
  | dropManager => false
  | op => op.neutral

theorem neutral_of_gentle {op : HubOp} (isGentle : op.gentle = true) : op.neutral = true := by
  cases op <;> first | rfl | cases isGentle

theorem gentle_toHubOp (key : StreamKey) (op : StreamOp) : (op.toHubOp key).gentle = true := by
  cases op <;> rfl

end HubOp

namespace Hub

def Moves (kind : HubOp → Bool) (hub hub' : Hub) : Prop :=
  hub' = hub ∨ ∃ op, kind op = true ∧ hub' = hub.step op

theorem Moves.neutral {hub hub' : Hub} (moves : Moves HubOp.gentle hub hub') :
    Moves HubOp.neutral hub hub' :=
  moves.imp_right fun ⟨op, gentle, step⟩ => ⟨op, op.neutral_of_gentle gentle, step⟩

/-- Only `send_to_stream` changes the frame in progress. -/
theorem step_sending {hub : Hub} {op : HubOp} (start : ∀ frame, op ≠ .sendToStream frame)
    (poll : op ≠ .pollSendToStream) : (hub.step op).sending = hub.sending := by
  have spec := hub.step_spec op
  generalize hub.step op = hub' at spec
  cases spec with
  | created remote window needsSyn newId newKey hub' opened =>
      exact (createStream_eq_ok opened).2.2.2.2.2.2.2.2.2.2.2.1
  | startSend frame _ _ => exact absurd rfl (start frame)
  | pollSend _ _ _ _ _ => exact absurd rfl poll
  | system _ cx _ frame rest _ => unfold nextSystemFrame; split <;> rfl
  | next _ cx _ _ index id taskKey task item sink answer handle found polled hub' spec =>
      exact (next_rest spec).2.2.2.1
  | _ => rfl

theorem sending_of_pollSendToStream {hub hub' : Hub} {sending : Sending}
    {result : Except Error Unit}
    (polled : hub.pollSendToStream sending = (.ready result, hub')) : hub'.sending = none := by
  have spec := hub.pollSendToStream_spec sending
  rw [polled] at spec
  cases spec <;> rfl

theorem Moves.sending {hub hub' : Hub} (moves : Moves HubOp.neutral hub hub') :
    hub'.sending = hub.sending := by
  rcases moves with rfl | ⟨op, neutral, rfl⟩
  · rfl
  · exact step_sending (fun frame is => by rw [is] at neutral; cases neutral)
      (fun is => by rw [is] at neutral; cases neutral)

end Hub

namespace Reader

/-- The read task is still in its loop, and not about to leave it. -/
def reads : Reader → Bool
  | goingAway _ | leaving | exited | cancelled | panicked _ => false
  | _ => true

theorem reads_of_hand {reader : Reader} {frame : Frame} (hand : reader.hand = some frame) :
    reader.reads = true := by
  cases reader <;> first | rfl | cases hand

theorem reads_of_ended {reader : Reader} (ended : reader.ended = true) :
    reader.reads = false := by
  cases reader <;> first | rfl | cases ended

end Reader

namespace Session

def SendingSound (session : Session) : Prop :=
  match session.reader with
  | .sending frame => ∃ sending, session.hub.sending = some sending ∧ sending.frame = frame
  | reader => reader.reads = true → session.hub.sending = none

theorem SendingSound.free {session : Session} (sound : session.SendingSound)
    (reads : session.reader.reads = true) (other : ∀ frame, session.reader ≠ .sending frame) :
    session.hub.sending = none := by
  unfold SendingSound at sound
  split at sound
  · rename_i frame sends
    exact absurd sends (other frame)
  · exact sound reads

/-- The parts of a session besides the hub and the read task stay the same, and a
write task that runs has run before. -/
structure KeepsRest (session session' : Session) : Prop where
  window : session'.window = session.window
  handled : session'.handled = session.handled
  born : session'.born = session.born
  codec : session'.codec = session.codec
  rx : session'.rx = session.rx
  tx : session'.tx = session.tx
  writer : session'.writer = .running → session.writer = .running

theorem KeepsRest.refl (session : Session) : KeepsRest session session :=
  ⟨rfl, rfl, rfl, rfl, rfl, rfl, id⟩

/-- The read task is about to reach its `unreachable!()`. -/
def Misroutes (session : Session) : Prop :=
  ∃ frame, session.reader = .routing frame ∧ frame.header.typ = .goAway ∧
    ∀ id error message, frame.body ≠ .goAway id error message

/-- The outcomes of one step. -/
inductive StepSpec (session : Session) : SessionOp → Session → Prop where
  | recv (bytes : List UInt8) :
      StepSpec session (.recv bytes) { session with rx := session.rx ++ bytes }
  | waits (idle : session.reader = .idle) (codec : FrameCodec) (rx : List UInt8)
      (decoded : session.codec.decode session.rx = .ok (none, codec, rx)) :
      StepSpec session .readFrame { session with codec := codec, rx := rx }
  | takes (idle : session.reader = .idle) (frame : Frame) (codec : FrameCodec) (rx : List UInt8)
      (decoded : session.codec.decode session.rx = .ok (some frame, codec, rx)) :
      StepSpec session .readFrame { session with
        codec := codec
        rx := rx
        reader := if frame.isSyn then .opening frame else .routing frame }
  /-- A SYN creates a stream. -/
  | accepts (frame : Frame) (reader : session.reader = .opening frame)
      (newId : StreamID) (key : StreamKey) (hub : Hub)
      (created : session.hub.createStream (some frame.header.streamId) session.window false =
        .ok (newId, key, hub)) :
      StepSpec session .readerStep { session with
        hub := hub
        reader := .accepting frame key
        born := Function.update session.born key session.handled.length }
  /-- The read task keeps its frame and goes on to the next point. -/
  | advances (session' : Session) (frame : Frame)
      (hand : session.reader.hand = some frame) (hand' : session'.reader.hand = some frame)
      (unrouted : ∀ frame, session.reader ≠ .routing frame)
      (past : ∀ frame, session.reader ≠ .opening frame)
      (past' : ∀ frame, session'.reader ≠ .opening frame)
      (unsent : ∀ frame, session.reader ≠ .sending frame)
      (unsent' : ∀ frame, session'.reader ≠ .sending frame)
      (hub : session'.hub = session.hub)
      (rest : KeepsRest session session') : StepSpec session .readerStep session'
  | routes (frame : Frame) (reader : session.reader = .routing frame)
      (typ : frame.header.typ ≠ .goAway)
      (free : session.hub.sending = none) (routable : frame.body.routable = true) :
      StepSpec session .readerStep { session with
        hub := { session.hub with sending := some (Sending.new frame routable) }
        reader := .sending frame }
  | pends (frame : Frame) (reader : session.reader = .sending frame) (sending : Sending)
      (current : session.hub.sending = some sending) (own : sending.frame = frame) (hub : Hub)
      (polled : session.hub.pollSendToStream sending = (.pending, hub)) :
      StepSpec session .readerStep { session with hub := hub }
  | delivers (frame : Frame) (reader : session.reader = .sending frame) (sending : Sending)
      (current : session.hub.sending = some sending) (own : sending.frame = frame) (hub : Hub)
      (polled : session.hub.pollSendToStream sending = (.ready (.ok ()), hub)) :
      StepSpec session .readerStep { session with
        hub := hub
        lastStreamProcessed := frame.header.streamId
        reader := if frame.isFin then .closing frame.header.streamId else .idle
        handled := session.handled ++ [frame] }
  | refuses (frame : Frame) (reader : session.reader = .sending frame) (sending : Sending)
      (current : session.hub.sending = some sending) (own : sending.frame = frame)
      (error : Error) (hub : Hub)
      (polled : session.hub.pollSendToStream sending = (.ready (.error error), hub)) :
      StepSpec session .readerStep
        ({ session with hub := hub }.answer frame (.rst frame.header.streamId error))
  /-- A frame that no stream can take is answered at once. -/
  | answers (frame : Frame) (reader : session.reader = .routing frame) (reply : SystemFrame)
      (typ : frame.header.typ ≠ .goAway)
      (misrouted : frame.body.routable = false ∨ ∃ value, frame.header.typ = .invalid value)
      (own : ∀ id error, reply = .rst id error → id = frame.header.streamId) :
      StepSpec session .readerStep (session.answer frame reply)
  /-- After a FIN its flag is set. -/
  | closes (streamId : StreamID) (reader : session.reader = .closing streamId) :
      StepSpec session .readerStep { session with
        hub := session.hub.step (.closeDataWrite streamId)
        reader := .idle }
  | replies (frame : SystemFrame) (reader : session.reader = .sysSending frame) :
      StepSpec session .readerStep { session with
        hub := session.hub.step (.sysSend frame)
        reader := .idle }
  /-- The read task leaves its loop, or processes a GOAWAY after it. -/
  | leaves (op : SessionOp) (session' : Session) (left : session'.reader.reads = false)
      (running : session'.reader.ended = false)
      (noReply : ∀ frame, session.reader ≠ .sysSending frame)
      (goes : ∀ error, session'.reader = .goingAway error →
        ∃ frame, session.reader = .routing frame ∧ frame.header.typ = .goAway)
      (hub : Hub.Moves HubOp.gentle session.hub session'.hub ∨
        ∃ error, session.reader = .goingAway error ∧
          session'.hub = session.hub.step (.goAway error))
      (rest : KeepsRest session session') : StepSpec session op session'
  | ends (op : SessionOp) (session' : Session) (ended : session'.reader.ended = true)
      (panics : ∀ panic, session'.reader = .panicked panic → session.reader = .idle ∧
        session.codec.decode session.rx = .error panic ∨ session.Misroutes)
      (hub : Hub.Moves HubOp.neutral session.hub session'.hub)
      (rest : KeepsRest session session') : StepSpec session op session'
  /-- The write task yields no frame. -/
  | polls (pick : Option Nat) (cx : Waker) (link : Option Nat) (session' : Session)
      (running : session.writer = .running)
      (hub : session'.hub = session.hub.step (.pollNext pick cx))
      (quiet : session'.hub.emitted = session.hub.emitted)
      (reader : session'.reader = session.reader)
      (rest : KeepsRest session session') : StepSpec session (.pollNext pick cx link) session'
  /-- The write task yields a frame, and the link takes a part of its bytes if the
  frame can be encoded. -/
  | emits (pick : Option Nat) (cx : Waker) (link : Option Nat)
      (running : session.writer = .running) (frame : Frame) (hub : Hub)
      (polled : session.hub.pollNext pick cx = .ok (.ready (some frame), hub))
      (taken : Nat) (writer : Writer)
      (whole : writer = .running → (encodeBytes frame).length ≤ taken ∧
        validateHeader frame.header = .ok () ∧ frame.header.typ ≠ .goAway)
      (valid : 0 < taken → validateHeader frame.header = .ok ()) :
      StepSpec session (.pollNext pick cx link) { session with
        hub := hub
        tx := session.tx ++ (encodeBytes frame).take taken
        writer := writer }
  | serves (running : session.writer = .running) (requested : 0 < session.openReqs)
      (newId : StreamID) (key : StreamKey) (hub : Hub)
      (created : session.hub.createStream none session.window true = .ok (newId, key, hub)) :
      StepSpec session .serveOpen { session with
        hub := hub
        openReqs := session.openReqs - 1
        opened := session.opened ++ [.ok key] }
  | closeSends (error : Error) (message : List UInt8) :
      StepSpec session (.closeSend error message) { session with
        hub := session.hub.step (.sysSend (.goaway (Constrained.clamp 0) error message))
        closing := true }
  /-- The application or nobody acts, outside of both tasks. -/
  | outside (op : SessionOp) (session' : Session) (reader : session'.reader = session.reader)
      (hub : Hub.Moves HubOp.gentle session.hub session'.hub ∨
        session.reader.ended = true ∧ session'.hub = session.hub.dropManager)
      (rest : KeepsRest session session') : StepSpec session op session'

theorem StepSpec.idle (session : Session) (op : SessionOp) : StepSpec session op session :=
  .outside op session rfl (Or.inl (Or.inl rfl)) (.refl session)

/-- A frame goes to its stream, is answered, or is a GOAWAY, whose body is that of another
type only in a frame that no decoder has made. -/
theorem route_cases (session : Session) (frame : Frame) :
    (∃ hub, session.hub.startSendToStream frame = .ok hub ∧ frame.header.typ ≠ .goAway ∧
      session.route frame = { session with hub := hub, reader := .sending frame }) ∨
    (∃ error, session.hub.startSendToStream frame = .error error ∧
      frame.header.typ ≠ .goAway ∧
      session.route frame = session.answer frame (.rst frame.header.streamId error)) ∨
    (∃ value, frame.header.typ = .invalid value ∧ session.route frame =
      session.answer frame (.goaway session.lastStreamProcessed .protocol invalidFrame)) ∨
    frame.header.typ = .goAway ∧
      ((∃ error, session.route frame =
        { session with terminated := true, reader := .goingAway error }) ∨
      (∀ last error message, frame.body = .goAway last error message → False) ∧
        session.route frame =
          { session with acceptTx := session.acceptTx.close, reader := .panicked .readerGoAway }) := by
  unfold route
  cases typ : frame.header.typ with
  | goAway =>
      refine Or.inr (Or.inr (Or.inr ⟨rfl, ?_⟩))
      simp only
      split
      · exact Or.inl ⟨_, rfl⟩
      · exact Or.inr ⟨by assumption, rfl⟩
  | invalid value => exact Or.inr (Or.inr (Or.inl ⟨value, rfl, rfl⟩))
  | _ =>
      cases started : session.hub.startSendToStream frame with
      | ok hub => exact Or.inl ⟨hub, rfl, by simp, rfl⟩
      | error error => exact Or.inr (Or.inl ⟨error, rfl, by simp, rfl⟩)

/-- Frames of a type that belongs to streams. -/
theorem route_spec {session : Session} (sound : session.SendingSound) {frame : Frame}
    (reader : session.reader = .routing frame) :
    StepSpec session .readerStep (session.route frame) := by
  have free : session.hub.sending = none :=
    sound.free (by simp [reader, Reader.reads]) (by simp [reader])
  rcases route_cases session frame with ⟨hub, started, typ, routed⟩ |
    ⟨error, failed, typ, routed⟩ | ⟨value, typ, routed⟩ | ⟨typ, ⟨error, routed⟩ | ⟨other, routed⟩⟩
  · rw [routed]
    by_cases routable : frame.body.routable = true
    · rw [Hub.startSendToStream, dif_pos routable] at started
      cases started
      exact .routes frame reader typ free routable
    · rw [Hub.startSendToStream, dif_neg routable] at started
      cases started
  · rw [routed]
    have unroutable : frame.body.routable = false := by
      by_contra routable
      rw [Hub.startSendToStream, dif_pos (by simpa using routable)] at failed
      cases failed
    refine .answers frame reader _ typ (Or.inl unroutable) ?_
    rintro id error ⟨⟩
    rfl
  · rw [routed]
    exact .answers frame reader _ (by simp [typ]) (Or.inr ⟨value, typ⟩) (by simp)
  · rw [routed]
    exact .leaves _ _ rfl rfl (by simp [reader]) (fun _ _ => ⟨frame, reader, typ⟩)
      (Or.inl (Or.inl rfl)) ⟨rfl, rfl, rfl, rfl, rfl, rfl, id⟩
  · rw [routed]
    exact .ends _ _ rfl (fun _ _ => Or.inr ⟨frame, reader, typ, other⟩) (Or.inl rfl)
      ⟨rfl, rfl, rfl, rfl, rfl, rfl, id⟩

theorem readerStep_spec {session : Session} (sound : session.SendingSound) :
    StepSpec session .readerStep session.readerStep := by
  unfold readerStep
  split
  · rename_i frame reader
    split
    · rename_i newId key hub created
      exact .accepts frame reader newId key hub created
    · exact .leaves _ _ rfl rfl (by simp [reader]) (by simp) (Or.inl (Or.inl rfl))
        ⟨rfl, rfl, rfl, rfl, rfl, rfl, id⟩
  · rename_i frame key reader
    split
    · exact .idle _ _
    · exact .advances _ frame (by simp [reader, Reader.hand]) rfl (by simp [reader])
        (by simp [reader]) (by simp) (by simp [reader]) (by simp) rfl
        ⟨rfl, rfl, rfl, rfl, rfl, rfl, id⟩
    · exact .leaves _ _ rfl rfl (by simp [reader]) (by simp)
        (Or.inl (Or.inr ⟨.dropStream key, rfl, rfl⟩)) ⟨rfl, rfl, rfl, rfl, rfl, rfl, id⟩
  · rename_i frame reader
    split
    · exact .idle _ _
    · exact .advances _ frame (by simp [reader, Reader.hand]) rfl (by simp [reader])
        (by simp [reader]) (by simp) (by simp [reader]) (by simp) rfl
        ⟨rfl, rfl, rfl, rfl, rfl, rfl, id⟩
  · rename_i frame reader
    exact route_spec sound reader
  · rename_i frame reader
    have current : ∃ sending, session.hub.sending = some sending ∧ sending.frame = frame := by
      simpa [SendingSound, reader] using sound
    obtain ⟨sending, current, own⟩ := current
    simp only [current, pollSend]
    split
    · rename_i hub polled
      exact .pends frame reader sending current own hub polled
    · rename_i hub polled
      exact .delivers frame reader sending current own hub polled
    · rename_i error hub polled
      exact .refuses frame reader sending current own error hub polled
  · rename_i streamId reader
    exact .closes streamId reader
  · rename_i frame reader
    exact .replies frame reader
  · rename_i error reader
    exact .leaves _ _ rfl rfl (by simp [reader]) (by simp) (Or.inr ⟨error, reader, rfl⟩)
      ⟨rfl, rfl, rfl, rfl, rfl, rfl, id⟩
  · exact .ends _ _ rfl (by simp) (Or.inr ⟨.closeSenders, rfl, rfl⟩)
      ⟨rfl, rfl, rfl, rfl, rfl, rfl, id⟩
  · exact .idle _ _

theorem pollNext_spec {session : Session} (running : session.writer = .running)
    (pick : Option Nat) (cx : Waker) (link : Option Nat) :
    StepSpec session (.pollNext pick cx link) (session.pollNext pick cx link) := by
  have encoded (frame : Frame) : encode frame [] =
      (validateHeader frame.header).map fun _ => encodeBytes frame := by
    unfold encode
    cases validateHeader frame.header <;> rfl
  unfold pollNext
  split
  · rename_i panic polled
    have acts : session.hub.step (.pollNext pick cx) = session.hub.panicked panic := by
      simp only [Hub.step, polled]
    exact .polls pick cx link _ running acts.symm rfl rfl
      ⟨rfl, rfl, rfl, rfl, rfl, rfl, fun dead => by cases dead⟩
  · rename_i frame hub polled
    rw [encoded]
    cases valid : validateHeader frame.header with
    | error error =>
        have nothing := StepSpec.emits pick cx link running frame hub polled 0 .exited
          (fun dead => by cases dead) (fun pos => absurd pos (Nat.lt_irrefl 0))
        simpa [Except.map] using nothing
    | ok _ =>
        cases link with
        | some sent =>
            exact .emits pick cx _ running frame hub polled sent .exited
              (fun dead => by cases dead) (fun _ => valid)
        | none =>
            have all := StepSpec.emits pick cx none running frame hub polled
              (encodeBytes frame).length
              (if frame.header.typ = .goAway then .exited else .running)
              (fun runs => ⟨le_rfl, valid, fun goAway => by simp [goAway] at runs⟩) (fun _ => valid)
            simpa [Except.map] using all
  · rename_i polled hub notFrame next
    have acts : session.hub.step (.pollNext pick cx) = hub := by simp only [Hub.step, next]
    obtain ⟨origin, emitted⟩ := Hub.pollNext_emitted next
    have nothing : Hub.polledFrames polled = [] := by
      unfold Hub.polledFrames
      split
      · exact (notFrame _ rfl).elim
      · rfl
    refine .polls pick cx link _ running acts.symm ?_ rfl ⟨rfl, rfl, rfl, rfl, rfl, rfl, id⟩
    simpa [nothing] using emitted

theorem step_spec {session : Session} (sound : session.SendingSound) (op : SessionOp) :
    StepSpec session op (session.step op) := by
  cases op with
  | recv bytes => exact .recv bytes
  | readFrame =>
      simp only [step]
      split
      · rename_i idle
        unfold readFrame
        split
        · rename_i panic decoded
          refine .ends _ _ rfl (fun panic' is => Or.inl ⟨idle, ?_⟩) (Or.inl rfl)
            ⟨rfl, rfl, rfl, rfl, rfl, rfl, id⟩
          rw [decoded, Reader.panicked.inj is]
        · rename_i codec rx decoded
          exact .waits idle codec rx decoded
        · rename_i frame codec rx decoded
          exact .takes idle frame codec rx decoded
      · exact .idle _ _
  | readEnd =>
      simp only [step]
      split
      · rename_i idle
        exact .leaves _ _ rfl rfl (by simp [idle]) (by simp) (Or.inl (Or.inl rfl))
          ⟨rfl, rfl, rfl, rfl, rfl, rfl, id⟩
      · exact .idle _ _
  | readerStep => exact readerStep_spec sound
  | cancelReader =>
      simp only [step]
      split
      · exact .idle _ _
      · unfold cancelReader
        split
        · rename_i key _
          exact .ends _ _ rfl (by simp) (Or.inr ⟨.dropStream key, rfl, rfl⟩)
            ⟨rfl, rfl, rfl, rfl, rfl, rfl, id⟩
        · exact .ends _ _ rfl (by simp) (Or.inl rfl) ⟨rfl, rfl, rfl, rfl, rfl, rfl, id⟩
  | pollNext pick cx link =>
      simp only [step]
      split
      · rename_i enabled
        exact pollNext_spec enabled.1 pick cx link
      · exact .idle _ _
  | cancelWriter =>
      simp only [step]
      split
      · exact .outside _ _ rfl (Or.inl (Or.inl rfl))
          ⟨rfl, rfl, rfl, rfl, rfl, rfl, fun dead => by cases dead⟩
      · exact .idle _ _
  | serveOpen =>
      simp only [step]
      split
      · rename_i enabled
        unfold serveOpen
        split
        · rename_i newId key hub created
          exact .serves enabled.1 enabled.2 newId key hub created
        · exact .outside _ _ rfl (Or.inl (Or.inl rfl)) ⟨rfl, rfl, rfl, rfl, rfl, rfl, id⟩
      · exact .idle _ _
  | «open» =>
      simp only [step]
      split <;> exact .outside _ _ rfl (Or.inl (Or.inl rfl)) ⟨rfl, rfl, rfl, rfl, rfl, rfl, id⟩
  | closeSend error message => exact .closeSends error message
  | closeStore =>
      simp only [step]
      split
      · exact .outside _ _ rfl (Or.inl (Or.inl rfl)) ⟨rfl, rfl, rfl, rfl, rfl, rfl, id⟩
      · exact .idle _ _
  | accept cx =>
      simp only [step]
      split
      · exact .outside _ _ rfl (Or.inl (Or.inl rfl)) ⟨rfl, rfl, rfl, rfl, rfl, rfl, id⟩
      · exact .idle _ _
  | dropAccept => exact .outside _ _ rfl (Or.inl (Or.inl rfl)) ⟨rfl, rfl, rfl, rfl, rfl, rfl, id⟩
  | dropAccepted =>
      simp only [step]
      split
      · rename_i key rest _ _
        exact .outside _ _ rfl (Or.inl (Or.inr ⟨.dropStream key, rfl, rfl⟩))
          ⟨rfl, rfl, rfl, rfl, rfl, rfl, id⟩
      · exact .idle _ _
  | stream key op =>
      simp only [step]
      split
      · exact .outside _ _ rfl
          (Or.inl (Or.inr ⟨op.toHubOp key, HubOp.gentle_toHubOp key op, rfl⟩))
          ⟨rfl, rfl, rfl, rfl, rfl, rfl, id⟩
      · exact .idle _ _
  | dropManager =>
      simp only [step]
      split
      · rename_i both
        exact .outside _ _ rfl (Or.inr ⟨both.1, rfl⟩) ⟨rfl, rfl, rfl, rfl, rfl, rfl, id⟩
      · exact .idle _ _

theorem SendingSound.new (window acceptQueueSize streamLimit : Nat) (client : Bool) :
    (Session.new window acceptQueueSize streamLimit client).SendingSound :=
  fun _ => rfl

theorem SendingSound.of_none {session : Session} (free : session.hub.sending = none)
    (other : ∀ frame, session.reader ≠ .sending frame) : session.SendingSound := by
  unfold SendingSound
  split
  · rename_i frame sends
    exact absurd sends (other frame)
  · exact fun _ => free

theorem SendingSound.of_not_reads {session : Session} (left : session.reader.reads = false) :
    session.SendingSound := by
  unfold SendingSound
  split
  · rename_i frame sends
    rw [sends] at left
    cases left
  · intro reads
    rw [left] at reads
    cases reads

theorem SendingSound.congr {session session' : Session} (sound : session.SendingSound)
    (reader : session'.reader = session.reader)
    (sending : session'.hub.sending = session.hub.sending) : session'.SendingSound := by
  unfold SendingSound at sound ⊢
  rw [reader, sending]
  exact sound

theorem SendingSound.step {session : Session} (sound : session.SendingSound) (op : SessionOp) :
    (session.step op).SendingSound := by
  have spec := session.step_spec sound op
  generalize session.step op = session' at spec
  cases spec with
  | recv bytes => exact sound.congr rfl rfl
  | waits _ _ _ _ => exact sound.congr rfl rfl
  | takes idle frame codec rx decoded =>
      refine .of_none (sound.free (by simp [idle, Reader.reads]) (by simp [idle])) ?_
      intro other
      simp only
      split <;> simp
  | accepts frame reader newId key hub created =>
      refine .of_none ?_ (by simp)
      exact (Hub.createStream_eq_ok created).2.2.2.2.2.2.2.2.2.2.2.1.trans
        (sound.free (by simp [reader, Reader.reads]) (by simp [reader]))
  | advances session' frame hand hand' _ past past' unsent unsent' hub rest =>
      exact .of_none (hub ▸ sound.free (Reader.reads_of_hand hand) unsent) unsent'
  | routes frame reader _ free routable => exact ⟨_, rfl, rfl⟩
  | pends frame reader sending current own hub polled =>
      have spec := session.hub.pollSendToStream_spec sending
      rw [polled] at spec
      generalize outcomeEq : (Poll.pending, hub) = outcome at spec
      cases spec with
      | waiting handle _ _ _ _ =>
          obtain ⟨-, rfl⟩ := Prod.mk.inj outcomeEq
          unfold SendingSound
          simp only [reader]
          exact ⟨_, rfl, own⟩
      | _ => cases outcomeEq
  | delivers frame reader sending current own hub polled =>
      refine .of_none (Hub.sending_of_pollSendToStream polled) ?_
      intro other
      simp only
      split <;> simp
  | refuses frame reader sending current own error hub polled =>
      exact .of_none (Hub.sending_of_pollSendToStream polled) (by simp [answer])
  | answers frame reader reply _ _ _ =>
      exact .of_none (sound.free (by simp [reader, Reader.reads]) (by simp [reader])) (by simp [answer])
  | closes streamId reader =>
      refine .of_none ((Hub.step_sending (by simp) (by simp)).trans (sound.free ?_ ?_)) (by simp)
      · simp [reader, Reader.reads]
      · simp [reader]
  | replies frame reader =>
      refine .of_none ((Hub.step_sending (by simp) (by simp)).trans (sound.free ?_ ?_)) (by simp)
      · simp [reader, Reader.reads]
      · simp [reader]
  | closeSends _ _ => exact sound.congr rfl (Hub.step_sending (by simp) (by simp))
  | leaves op session' left _ _ _ hub rest => exact .of_not_reads left
  | ends op session' ended _ hub rest => exact .of_not_reads (Reader.reads_of_ended ended)
  | polls pick cx link session' _ hub _ reader rest =>
      exact sound.congr reader (hub ▸ Hub.step_sending (by simp) (by simp))
  | emits pick cx link _ frame hub polled taken writer _ _ =>
      have acts : session.hub.step (.pollNext pick cx) = hub := by simp only [Hub.step, polled]
      exact sound.congr rfl (acts ▸ Hub.step_sending (by simp) (by simp))
  | serves _ _ newId key hub created =>
      exact sound.congr rfl (Hub.createStream_eq_ok created).2.2.2.2.2.2.2.2.2.2.2.1
  | outside op session' reader hub rest =>
      rcases hub with moves | ⟨left, dropped⟩
      · exact sound.congr reader moves.neutral.sending
      · exact .of_not_reads (reader ▸ Reader.reads_of_ended left)

/-- The read task takes the frame in its hand from the decoder. -/
theorem StepSpec.hand {session session' : Session} {op : SessionOp}
    (spec : StepSpec session op session') {frame : Frame}
    (hand : session'.reader.hand = some frame) : session.reader.hand = some frame ∨
      op = .readFrame ∧ ∃ codec rx, session.codec.decode session.rx = .ok (some frame, codec, rx) := by
  cases spec with
  | takes idle taken codec rx decoded =>
      obtain rfl : taken = frame := by
        simp only at hand
        split at hand <;> simpa [Reader.hand] using hand
      exact .inr ⟨rfl, codec, rx, decoded⟩
  | accepts first reader _ _ _ _ => exact .inl (by rw [reader]; exact hand)
  | advances _ first hand' hand'' _ _ _ _ _ _ _ => exact .inl (hand'.trans (hand''.symm.trans hand))
  | routes first reader _ _ _ => exact .inl (by rw [reader]; exact hand)
  | delivers first reader _ _ _ _ _ =>
      simp only at hand
      split at hand <;> cases hand
  | refuses _ _ _ _ _ _ _ _ => cases hand
  | answers _ _ _ _ _ _ => cases hand
  | closes _ _ => cases hand
  | replies _ _ => cases hand
  | leaves _ _ left _ _ _ _ _ =>
      rw [Reader.reads_of_hand hand] at left
      cases left
  | ends _ _ ended _ _ _ =>
      have reads := Reader.reads_of_hand hand
      rw [Reader.reads_of_ended ended] at reads
      cases reads
  | polls _ _ _ _ _ _ _ reader _ => exact .inl (reader ▸ hand)
  | outside _ _ reader _ _ => exact .inl (reader ▸ hand)
  | _ => exact .inl hand

theorem StepSpec.settled {session session' : Session} {op : SessionOp}
    (spec : StepSpec session op session') : session'.handled = session.handled ∨
      ∃ frame, session.reader.hand = some frame ∧
        session'.handled = session.handled ++ [frame] := by
  cases spec with
  | delivers frame reader _ _ _ _ _ => exact .inr ⟨frame, by rw [reader]; rfl, rfl⟩
  | refuses frame reader _ _ _ _ _ _ => exact .inr ⟨frame, by rw [reader]; rfl, rfl⟩
  | answers frame reader _ _ _ _ => exact .inr ⟨frame, by rw [reader]; rfl, rfl⟩
  | advances _ _ _ _ _ _ _ _ _ _ rest => exact .inl rest.handled
  | leaves _ _ _ _ _ _ _ rest => exact .inl rest.handled
  | ends _ _ _ _ _ rest => exact .inl rest.handled
  | polls _ _ _ _ _ _ _ _ rest => exact .inl rest.handled
  | outside _ _ _ _ rest => exact .inl rest.handled
  | _ => exact .inl rfl

end Session

end Muxado

end NgrokRust
