import NgrokRust.MuxadoSessionRuns
import NgrokRust.MuxadoStreamEntry

/-!
# What keeps the read loop going

`Reader::handle_frame` answers the errors of a stream with a reset and passes on its
own errors with `?`, which ends the loop and closes every stream.  As long as the link
and the accept half are there and no GOAWAY arrives, one error of the second kind is
left: the full table of `create_stream`.
-/

namespace NgrokRust

namespace Muxado

open LabelledRuns

namespace Session

/-- The link stays up, the accept half is alive and no GOAWAY is read. Moreover the table
has room whenever a SYN is processed. -/
def keepsReading (session : Session) : SessionOp → Prop
  | .readFrame => ∀ frame codec rx,
      session.codec.decode session.rx = .ok (some frame, codec, rx) → frame.header.typ ≠ .goAway
  | .readerStep => ∀ frame, session.reader = .opening frame →
      session.hub.len ≠ session.hub.manager.streamLimit
  | .readEnd => False
  | .cancelReader => False
  | .dropAccept => False
  | _ => True

/-- The read task is in its loop and serves every open stream. -/
structure Serving (session : Session) : Prop where
  reads : session.reader.reads = true
  isOpen : session.hub.ChannelsOpen
  /-- A frame that the stream may still receive goes onto its channel, or waits for
  room there. -/
  delivers : ∀ (sending : Sending) handle,
    session.hub.getStream sending.frame.header.streamId = some handle →
    (session.hub.ends handle.stream).dropped = false →
    ¬ (sending.frame.header.typ = .data ∧ handle.dataWriteClosed = true) →
    (∀ error, sending.frame.body ≠ .rst error) → sending.shrinkWindow ≤ handle.window →
    (session.hub.ends handle.stream).stream.fin.buffer <
        (session.hub.ends handle.stream).stream.fin.queue.length ∧
        (session.hub.pollSendToStream sending).1 = .pending ∨
      (session.hub.pollSendToStream sending).1 = .ready (.ok ()) ∧
        ((session.hub.pollSendToStream sending).2.ends handle.stream).recvd =
          (session.hub.ends handle.stream).recvd ++ [sending.frame]

/-- The read task is in its loop with a frame that is no GOAWAY, and its accept queue is
open. -/
structure Looping (session : Session) : Prop where
  reads : session.reader.reads = true
  accepts : session.acceptTx.isOpen = true
  hand : ∀ frame, session.reader.hand = some frame → frame.header.typ ≠ .goAway

namespace Looping

variable {session : Session}

theorem congr (looping : session.Looping) {session' : Session}
    (reader : session'.reader = session.reader)
    (acceptTx : session'.acceptTx.isOpen = session.acceptTx.isOpen) : session'.Looping := by
  obtain ⟨reads, accepts, hand⟩ := looping
  exact ⟨reader ▸ reads, acceptTx.trans accepts, reader ▸ hand⟩

theorem advance (looping : session.Looping) {session' : Session}
    (reads : session'.reader.reads = true)
    (hand : session'.reader.hand = none ∨ session'.reader.hand = session.reader.hand)
    (acceptTx : session'.acceptTx.isOpen = session.acceptTx.isOpen) : session'.Looping := by
  refine ⟨reads, acceptTx.trans looping.accepts, fun frame is => ?_⟩
  rcases hand with nothing | same
  · rw [nothing] at is
    cases is
  · exact looping.hand frame (same ▸ is)

theorem readFrame (looping : session.Looping) (allowed : session.keepsReading .readFrame) :
    session.readFrame.Looping := by
  unfold Session.readFrame
  split
  · rename_i panic decoded
    obtain ⟨result, ok⟩ := exists_decode session.codec session.rx
    rw [ok] at decoded
    cases decoded
  · exact looping.congr rfl rfl
  · rename_i frame codec rx decoded
    have typ := allowed frame codec rx decoded
    refine ⟨?_, looping.accepts, fun other is => ?_⟩
    · simp only
      split <;> rfl
    · obtain rfl : frame = other := by
        simp only at is
        split at is <;> simpa [Reader.hand] using is
      exact typ

theorem route (looping : session.Looping) {frame : Frame}
    (reader : session.reader = .routing frame) : (session.route frame).Looping := by
  have typ : frame.header.typ ≠ .goAway := looping.hand frame (by rw [reader]; rfl)
  rcases route_cases session frame with ⟨hub, -, -, routed⟩ | ⟨error, -, -, routed⟩ |
    ⟨value, -, routed⟩ | ⟨goAway, -⟩
  · rw [routed]
    exact looping.advance rfl (Or.inr (by rw [reader]; rfl)) rfl
  · rw [routed]
    exact looping.advance rfl (Or.inl rfl) rfl
  · rw [routed]
    exact looping.advance rfl (Or.inl rfl) rfl
  · exact absurd goAway typ

theorem readerStep (looping : session.Looping) (allowed : session.keepsReading .readerStep) :
    session.readerStep.Looping := by
  unfold Session.readerStep
  split
  · rename_i frame reader
    split
    · exact looping.advance rfl (Or.inr (by rw [reader]; rfl)) rfl
    · rename_i error failed
      have full := (Hub.createStream_fails_iff session.hub _ _ _).mp ⟨error, failed⟩
      exact absurd full (allowed frame reader)
  · rename_i frame key reader
    split
    · exact looping
    · exact looping.advance rfl (Or.inr (by rw [reader]; rfl)) rfl
    · rename_i error polled
      simp only [Channel.pollReady, looping.accepts, if_true] at polled
      split at polled <;> cases polled
  · rename_i frame reader
    split
    · exact looping
    · exact looping.advance rfl (Or.inr (by rw [reader]; rfl)) rfl
  · rename_i frame reader
    exact looping.route reader
  · split
    · unfold Session.pollSend
      split
      · exact looping.congr rfl rfl
      · refine looping.advance ?_ (Or.inl ?_) rfl
        · dsimp only
          split <;> rfl
        · dsimp only
          split <;> rfl
      · exact looping.advance rfl (Or.inl rfl) rfl
    · exact looping
  · exact looping.advance rfl (Or.inl rfl) rfl
  · exact looping.advance rfl (Or.inl rfl) rfl
  · rename_i error reader
    have reads := looping.reads
    rw [reader] at reads
    cases reads
  · rename_i reader
    have reads := looping.reads
    rw [reader] at reads
    cases reads
  · exact looping

theorem pollNext (looping : session.Looping) (pick : Option Nat) (cx : Waker)
    (link : Option Nat) : (session.pollNext pick cx link).Looping := by
  unfold Session.pollNext
  split
  · exact looping.congr rfl rfl
  · split <;> exact looping.congr rfl rfl
  · exact looping.congr rfl rfl

theorem step (looping : session.Looping) {op : SessionOp} (allowed : session.keepsReading op) :
    (session.step op).Looping := by
  cases op with
  | readFrame =>
      simp only [Session.step]
      split
      · exact looping.readFrame allowed
      · exact looping
  | readEnd => exact allowed.elim
  | cancelReader => exact allowed.elim
  | dropAccept => exact allowed.elim
  | readerStep => exact looping.readerStep allowed
  | pollNext pick cx link =>
      simp only [Session.step]
      split
      · exact looping.pollNext pick cx link
      · exact looping
  | serveOpen =>
      simp only [Session.step, Session.serveOpen]
      split
      · split <;> exact looping.congr rfl rfl
      · exact looping
  | accept cx =>
      simp only [Session.step]
      split
      · refine looping.congr rfl ?_
        simp only [Channel.pollNext]
        split
        · rfl
        · split <;> rfl
      · exact looping
  | dropAccepted =>
      simp only [Session.step]
      split
      · exact looping.congr rfl rfl
      · exact looping
  | recv _ => exact looping.congr rfl rfl
  | closeSend _ _ => exact looping.congr rfl rfl
  | _ =>
      simp only [Session.step]
      split <;> exact looping.congr rfl rfl

end Looping

/-- The read task stays in its loop and closes no channel. -/
structure KeepsServing (session : Session) : Prop where
  sending : session.SendingSound
  addressed : session.hub.Addressed
  looping : session.Looping
  channels : session.hub.ChannelsOpen

theorem KeepsServing.step {session : Session} (keeps : session.KeepsServing) {op : SessionOp}
    (allowed : session.keepsReading op) : (session.step op).KeepsServing := by
  have looping := keeps.looping.step allowed
  have running : (session.step op).reader.ended = false := by
    by_contra ended
    have left := Reader.reads_of_ended (by simpa using ended)
    rw [looping.reads] at left
    cases left
  refine ⟨keeps.sending.step op, ?_, looping, ?_⟩
  · rcases (step_spec keeps.sending op).hub with same | ⟨hubOp, steps, -, -⟩
    · exact same ▸ keeps.addressed
    · exact steps ▸ keeps.addressed.step hubOp
  · rcases (step_spec keeps.sending op).hub with same | ⟨hubOp, steps, -, notCloses⟩
    · exact same ▸ keeps.channels
    · exact steps ▸ keeps.channels.step keeps.addressed (notCloses running)

variable {window acceptQueueSize streamLimit : Nat} {client : Bool} {session : Session}

/-- As long as every SYN finds room in the table, nothing that the remote sends except a
GOAWAY ends the read loop or keeps an open stream from its frames. -/
theorem serving
    (reaches : Reaches Session.step keepsReading
      (Session.new window acceptQueueSize streamLimit client) session) : session.Serving := by
  have keeps : session.KeepsServing := by
    refine reaches.invariant KeepsServing (fun _ _ allowed keeps => keeps.step allowed)
      ⟨.new window acceptQueueSize streamLimit client, Hub.Addressed.new streamLimit client,
        ⟨rfl, rfl, fun _ is => by cases is⟩, ?_⟩
    intro id handle found
    simp [Session.new, Hub.new, Hub.getStream] at found
  refine ⟨keeps.looping.reads, keeps.channels, ?_⟩
  intro sending handle registered held accepts body fits
  have isOpen := keeps.channels _ handle registered held
  rcases Nat.lt_or_ge (session.hub.ends handle.stream).stream.fin.buffer
    (session.hub.ends handle.stream).stream.fin.queue.length with full | room
  · exact Or.inl ⟨full, Hub.pollSendToStream_of_full registered isOpen accepts body fits full⟩
  · exact Or.inr (Hub.pollSendToStream_of_room registered isOpen accepts body fits room)

/-- A SYN of the remote with no data. -/
def synFrame (id : StreamID) : Frame := (Frame.ofBody (.data [])).syn.withStreamId id

def oneStream : List SessionOp :=
  [.recv (encodeBytes (synFrame (Constrained.clamp 2))), .readFrame, .readerStep, .readerStep,
    .readerStep, .readerStep, .readerStep]

theorem serving_oneStream :
    (run Session.step (Session.new 8 4 2 true) oneStream).Serving := by
  have admitted : Admitted Session.step keepsReading (Session.new 8 4 2 true) oneStream := by
    refine ⟨trivial, ?_, ?_, ?_, ?_, ?_, ?_, trivial⟩
    · intro frame codec rx decoded
      have reads : FrameCodec.default.decode (encodeBytes (synFrame (Constrained.clamp 2))) =
          .ok (some (synFrame (Constrained.clamp 2)), FrameCodec.default, []) := by
        decide +kernel
      obtain ⟨rfl, -⟩ : frame = synFrame (Constrained.clamp 2) ∧ _ := by
        simpa using Except.ok.inj (decoded.symm.trans reads)
      decide
    all_goals
      intro frame reader
      decide
  exact serving (reaches_run admitted)

/-- A second SYN, which finds the table full, ends the read loop; the channel of the first
stream is then closed although the stream is registered and held. -/
theorem not_serving_full :
    ¬ (run Session.step (Session.new 8 4 1 true) (oneStream ++
      [.recv (encodeBytes (synFrame (Constrained.clamp 4))), .readFrame, .readerStep])).Serving ∧
    ¬ (run Session.step (Session.new 8 4 1 true) (oneStream ++
      [.recv (encodeBytes (synFrame (Constrained.clamp 4))), .readFrame, .readerStep,
        .readerStep])).hub.ChannelsOpen := by
  constructor
  · intro serving
    have left : (run Session.step (Session.new 8 4 1 true) (oneStream ++
        [.recv (encodeBytes (synFrame (Constrained.clamp 4))), .readFrame,
          .readerStep])).reader.reads = false := by
      decide +kernel
    rw [serving.reads] at left
    cases left
  · intro isOpen
    have closed : ((run Session.step (Session.new 8 4 1 true) (oneStream ++
        [.recv (encodeBytes (synFrame (Constrained.clamp 4))), .readFrame, .readerStep,
          .readerStep])).hub.ends 0).stream.fin.isOpen = false := by
      decide +kernel
    have registered : (run Session.step (Session.new 8 4 1 true) (oneStream ++
        [.recv (encodeBytes (synFrame (Constrained.clamp 4))), .readFrame, .readerStep,
          .readerStep])).hub.getStream (Constrained.clamp 2) = some ⟨0, true, false, 8⟩ := by
      decide +kernel
    rw [isOpen (Constrained.clamp 2) ⟨0, true, false, 8⟩ registered (by decide +kernel)] at closed
    cases closed

end Session

end Muxado

end NgrokRust
