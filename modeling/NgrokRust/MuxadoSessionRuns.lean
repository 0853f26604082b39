import NgrokRust.MuxadoSessionSteps
import NgrokRust.MuxadoStreamHistory
import NgrokRust.MuxadoStreamTable

/-!
# Runs of a session

Three questions about a whole session, whatever the remote sends and in whatever
order its tasks and its application act: what can make the read task panic, what a
read that reports the end of a stream says about the peer, and what can still be
opened after a GOAWAY.
-/

namespace NgrokRust

namespace Muxado

open LabelledRuns

namespace Session

def callsCreateStream (session : Session) : SessionOp → Prop
  | .readerStep => ∃ frame, session.reader = .opening frame
  | .serveOpen => session.writer = .running ∧ 0 < session.openReqs
  | _ => False

/-- A step is at most one operation on the hub. It creates a stream only if it asks for
one, and it closes the senders only if the read task ends. -/
theorem StepSpec.hub {session session' : Session} {op : SessionOp}
    (spec : StepSpec session op session') : session'.hub = session.hub ∨
      ∃ hubOp, session'.hub = session.hub.step hubOp ∧
        (∀ id window needsSyn, hubOp = .createStream id window needsSyn →
          session.callsCreateStream op) ∧
        (session'.reader.ended = false → hubOp ≠ .closeSenders) := by
  have of_step (hubOp : HubOp) (hub : session'.hub = session.hub.step hubOp)
      (calls : ∀ id window needsSyn, hubOp = .createStream id window needsSyn →
        session.callsCreateStream op)
      (keeps : session'.reader.ended = false → hubOp ≠ .closeSenders) :
      session'.hub = session.hub ∨ ∃ hubOp, session'.hub = session.hub.step hubOp ∧
        (∀ id window needsSyn, hubOp = .createStream id window needsSyn →
          session.callsCreateStream op) ∧
        (session'.reader.ended = false → hubOp ≠ .closeSenders) :=
    Or.inr ⟨hubOp, hub, calls, keeps⟩
  have of_gentle (moves : Hub.Moves HubOp.gentle session.hub session'.hub) :
      session'.hub = session.hub ∨ ∃ hubOp, session'.hub = session.hub.step hubOp ∧
        (∀ id window needsSyn, hubOp = .createStream id window needsSyn →
          session.callsCreateStream op) ∧
        (session'.reader.ended = false → hubOp ≠ .closeSenders) := by
    obtain same | ⟨hubOp, gentle, step⟩ := moves
    · exact Or.inl same
    · refine of_step hubOp step ?_ ?_
      · intro id window needsSyn is
        rw [is] at gentle
        cases gentle
      · intro _ is
        rw [is] at gentle
        cases gentle
  cases spec with
  | recv _ => exact Or.inl rfl
  | waits _ _ _ _ => exact Or.inl rfl
  | takes _ _ _ _ _ => exact Or.inl rfl
  | accepts frame reader newId key hub created =>
      refine of_step (.createStream (some frame.header.streamId) session.window false) ?_
        (fun _ _ _ _ => ⟨frame, reader⟩) (by simp)
      simp only [Hub.step, created]
  | advances _ _ _ _ _ _ _ _ _ hub _ => exact Or.inl hub
  | routes frame _ _ free routable =>
      refine of_step (.sendToStream frame) ?_ (by simp) (by simp)
      simp only [Hub.step, free, Hub.startSendToStream, dif_pos routable]
  | pends frame _ sending current _ hub polled =>
      refine of_step .pollSendToStream ?_ (by simp) (by simp)
      simp only [Hub.step, current, polled]
  | delivers frame _ sending current _ hub polled =>
      refine of_step .pollSendToStream ?_ (by simp) (by simp)
      simp only [Hub.step, current, polled]
  | refuses frame _ sending current _ error hub polled =>
      refine of_step .pollSendToStream ?_ (by simp) (by simp)
      simp only [Hub.step, current, polled, answer]
  | answers _ _ _ _ _ _ => exact Or.inl rfl
  | closes streamId _ => exact of_step (.closeDataWrite streamId) rfl (by simp) (by simp)
  | replies frame _ => exact of_step (.sysSend frame) rfl (by simp) (by simp)
  | closeSends error message =>
      exact of_step (.sysSend (.goaway _ error message)) rfl (by simp) (by simp)
  | leaves _ _ _ _ _ _ hub _ =>
      rcases hub with moves | ⟨error, -, gone⟩
      · exact of_gentle moves
      · exact of_step (.goAway error) gone (by simp) (by simp)
  | ends _ _ ended _ hub _ =>
      obtain same | ⟨hubOp, neutral, step⟩ := hub
      · exact Or.inl same
      · refine of_step hubOp step ?_ ?_
        · intro id window needsSyn is
          rw [is] at neutral
          cases neutral
        · intro running
          rw [ended] at running
          cases running
  | polls pick cx _ _ _ hub _ _ _ => exact of_step (.pollNext pick cx) hub (by simp) (by simp)
  | emits pick cx _ _ frame hub polled _ _ _ _ =>
      refine of_step (.pollNext pick cx) ?_ (by simp) (by simp)
      simp only [Hub.step, polled]
  | serves running requested newId key hub created =>
      refine of_step (.createStream none session.window true) ?_
        (fun _ _ _ _ => ⟨running, requested⟩) (by simp)
      simp only [Hub.step, created]
  | outside _ _ _ hub _ =>
      rcases hub with moves | ⟨-, dropped⟩
      · exact of_gentle moves
      · exact of_step .dropManager dropped (by simp) (by simp)

variable {window acceptQueueSize streamLimit : Nat} {client : Bool} {session : Session}
  {admits : Session → SessionOp → Prop}

/-- Runs of a session are runs of its hub, under a guard for the hub that the guard of
the session implies. -/
theorem hub_reaches {hubAdmits : Hub → HubOp → Prop}
    (reaches : Reaches Session.step admits (Session.new window acceptQueueSize streamLimit client)
      session)
    (permits : ∀ session op hubOp, admits session op →
      (∀ id window needsSyn, hubOp = .createStream id window needsSyn →
        session.callsCreateStream op) → hubAdmits session.hub hubOp) :
    Reaches Hub.step hubAdmits (Hub.new streamLimit client) session.hub := by
  have both : session.SendingSound ∧
      Reaches Hub.step hubAdmits (Hub.new streamLimit client) session.hub := by
    refine reaches.invariant (fun session => session.SendingSound ∧
      Reaches Hub.step hubAdmits (Hub.new streamLimit client) session.hub) ?_
      ⟨.new window acceptQueueSize streamLimit client, .refl⟩
    rintro session op admitted ⟨sound, runs⟩
    refine ⟨sound.step op, ?_⟩
    rcases (step_spec sound op).hub with same | ⟨hubOp, step, calls, -⟩
    · rw [same]
      exact runs
    · exact runs.tail ⟨hubOp, permits session op hubOp admitted calls, step⟩
  exact both.2

theorem hub_reaches_anyLabel
    (reaches : Reaches Session.step admits (Session.new window acceptQueueSize streamLimit client)
      session) : Reaches Hub.step anyLabel (Hub.new streamLimit client) session.hub :=
  hub_reaches reaches fun _ _ _ _ _ => trivial

/-- No frame is read whose type is GOAWAY but whose header fails validation: its
stream id is not zero or it announces fewer than eight bytes. -/
def goAwaysValid (session : Session) : SessionOp → Prop
  | .readFrame => ∀ frame codec rx,
      session.codec.decode session.rx = .ok (some frame, codec, rx) →
      frame.header.typ = .goAway → validateHeader frame.header = .ok ()
  | _ => True

def HandSound (session : Session) : Prop :=
  ∀ frame, session.reader.hand = some frame → frame.header.typ = .goAway →
    ∃ id error message, frame.body = .goAway id error message

/-- No panic is behind the read task or ahead of it. -/
structure PanicFree (session : Session) : Prop where
  sending : session.SendingSound
  hand : session.HandSound
  reader : ∀ panic, session.reader ≠ .panicked panic

theorem PanicFree.step {session : Session} (free : session.PanicFree) {op : SessionOp}
    (valid : session.goAwaysValid op) : (session.step op).PanicFree := by
  have sending := free.sending.step op
  have spec := session.step_spec free.sending op
  generalize session.step op = session' at sending spec
  refine ⟨sending, ?_, ?_⟩
  · intro frame hand typ
    obtain held | ⟨rfl, codec, rx, decoded⟩ := spec.hand hand
    · exact free.hand frame held typ
    · have body := headerType_of_decode decoded (valid frame codec rx decoded typ)
      rw [typ] at body
      cases bodyEq : frame.body with
      | goAway id error message => exact ⟨id, error, message, rfl⟩
      | _ => rw [bodyEq] at body; cases body
  · intro panic panicked
    cases spec with
    | ends _ session' _ panics _ _ =>
        rcases panics panic panicked with ⟨-, decoded⟩ | ⟨frame, reader, typ, other⟩
        · obtain ⟨result, ok⟩ := exists_decode session.codec session.rx
          rw [ok] at decoded
          cases decoded
        · obtain ⟨id, error, message, body⟩ := free.hand frame (by rw [reader]; rfl) typ
          exact other id error message body
    | takes _ _ _ _ _ => simp only at panicked; split at panicked <;> cases panicked
    | delivers _ _ _ _ _ _ _ => simp only at panicked; split at panicked <;> cases panicked
    | advances session' frame _ hand' _ _ _ _ _ _ _ => rw [panicked] at hand'; cases hand'
    | closes _ _ => cases panicked
    | replies _ _ => cases panicked
    | leaves _ session' _ running _ _ _ _ => rw [panicked] at running; cases running
    | polls _ _ _ session' _ _ _ reader _ => exact free.reader panic (reader ▸ panicked)
    | outside _ session' reader _ _ => exact free.reader panic (reader ▸ panicked)
    | accepts _ _ _ _ _ _ => cases panicked
    | routes _ _ _ _ _ => cases panicked
    | refuses _ _ _ _ _ _ _ _ => cases panicked
    | answers _ _ _ _ _ _ => cases panicked
    | _ => exact free.reader panic panicked

/-- If every GOAWAY header that is read is valid, the read task never panics: decoding
never does, and the `unreachable!()` is reached only with an invalid body. -/
theorem not_panicked
    (reaches : Reaches Session.step goAwaysValid
      (Session.new window acceptQueueSize streamLimit client) session) (panic : Panic) :
    session.reader ≠ .panicked panic := by
  refine (reaches.invariant PanicFree (fun _ _ valid free => free.step valid)
    ⟨.new window acceptQueueSize streamLimit client, ?_, ?_⟩).reader panic
  · intro frame hand
    cases hand
  · intro panic panicked
    cases panicked

/-- A GOAWAY whose header announces the eight bytes it has. -/
def goAwayFrame (error : Error) : Frame where
  header := { Header.default with length := Constrained.clamp 8, typ := .goAway }
  body := .goAway (Constrained.clamp 0) error []

theorem not_panicked_goAwayFrame :
    (run Session.step (Session.new 8 4 4 true)
      [.recv (encodeBytes (goAwayFrame .none)), .readFrame, .readerStep, .readerStep]).reader ≠
        .panicked .readerGoAway := by
  have admitted : Admitted Session.step goAwaysValid (Session.new 8 4 4 true)
      [.recv (encodeBytes (goAwayFrame .none)), .readFrame, .readerStep, .readerStep] := by
    refine ⟨trivial, ?_, trivial, trivial, trivial⟩
    intro frame codec rx decoded _
    have reads : FrameCodec.default.decode (encodeBytes (goAwayFrame .none)) =
        .ok (some (goAwayFrame .none), FrameCodec.default, []) := by decide +kernel
    obtain ⟨rfl, -⟩ : frame = goAwayFrame .none ∧ _ := by
      simpa using Except.ok.inj (decoded.symm.trans reads)
    decide
  exact not_panicked (reaches_run admitted) .readerGoAway

/-- Eight bytes of the remote are enough: a GOAWAY header that announces no body is
decoded to an invalid frame of type GOAWAY. -/
theorem panicked_of_short_goAway :
    (run Session.step (Session.new 8 4 4 true)
      [.recv [0, 0, 0, 0x30, 0, 0, 0, 0], .readFrame, .readerStep]).reader =
        .panicked .readerGoAway := by
  decide

/-- A read that reports the end of the stream has seen the final frame of the peer,
or its session has closed the channel; either way the bytes before are returned. -/
theorem endOfStream
    (reaches : Reaches Session.step anyLabel
      (Session.new window acceptQueueSize streamLimit client) session)
    {key : StreamKey} (held : session.hub.held key = true) {cx : Waker} {remaining : Nat}
    (pos : 0 < remaining) (small : remaining < 2 ^ 32) {stream' : Stream}
    (read : (session.hub.ends key).stream.pollRead cx remaining =
      .ok (.ready (.ok []), stream')) :
    (∃ before frame after, (session.hub.ends key).recvd = before ++ frame :: after ∧
        frame.isFin = true ∧ payloads (before ++ [frame]) <+: (session.hub.ends key).returned) ∨
      stream'.fin.isOpen = false ∧
        (session.hub.ends key).returned = payloads (session.hub.ends key).recvd := by
  have history := Hub.ends_invariant ReadHistory ReadHistory.create ReadHistory.change
    (hub_reaches_anyLabel reaches) key
  exact history.of_pollRead_nil (Hub.dropped_of_held held) pos small read

/-- The remote opens a stream with two bytes, and these are read. -/
def readTwoBytes : Session :=
  run Session.step (Session.new 8 4 4 true)
    [.recv (encodeBytes
        ((Frame.ofBody (.data [104, 105])).syn.withStreamId (Constrained.clamp 2))),
      .readFrame, .readerStep, .readerStep, .readerStep, .readerStep, .readerStep, .accept 0,
      .stream 0 (.pollRead 0 4)]

/-- The final frame follows. -/
def readToEnd : Session :=
  run Session.step readTwoBytes
    [.recv (encodeBytes (Stream.finFrame.withStreamId (Constrained.clamp 2))), .readFrame,
      .readerStep, .readerStep]

theorem endOfStream_readToEnd :
    ∃ stream', (readToEnd.hub.ends 0).stream.pollRead 0 4 = .ok (.ready (.ok []), stream') ∧
      ((∃ before frame after, (readToEnd.hub.ends 0).recvd = before ++ frame :: after ∧
          frame.isFin = true ∧ payloads (before ++ [frame]) <+: (readToEnd.hub.ends 0).returned) ∨
        stream'.fin.isOpen = false ∧
          (readToEnd.hub.ends 0).returned = payloads (readToEnd.hub.ends 0).recvd) := by
  have reaches : Reaches Session.step anyLabel (Session.new 8 4 4 true) readToEnd :=
    (reaches_run_anyLabel _ _).trans (reaches_run_anyLabel _ _)
  obtain ⟨stream', read⟩ : ∃ stream', (readToEnd.hub.ends 0).stream.pollRead 0 4 =
      .ok (.ready (.ok []), stream') := ⟨_, rfl⟩
  exact ⟨stream', read, endOfStream reaches rfl (by decide) (by decide) read⟩

/-- When the link fails in the middle of the peer's data, the next read is a
successful end of the stream, although no final frame was received. -/
theorem not_endOfStream_link_failure :
    (∃ stream', ((run Session.step readTwoBytes [.readEnd, .readerStep]).hub.ends
        0).stream.pollRead 0 4 = .ok (.ready (.ok []), stream')) ∧
      ∀ frame ∈ ((run Session.step readTwoBytes [.readEnd, .readerStep]).hub.ends 0).recvd,
        frame.isFin = false := by
  refine ⟨⟨_, rfl⟩, ?_⟩
  decide

end Session

namespace Hub

/-- A call to `create_stream` fails or finds the manager alive. -/
def opensAlive (hub : Hub) : HubOp → Prop
  | .createStream _ _ _ => hub.manager.goneAway = false ∨ hub.len = hub.manager.streamLimit
  | _ => True

def Emptied (hub : Hub) : Prop := hub.manager.goneAway = true → hub.manager.streams = ∅

theorem Emptied.step {hub : Hub} (emptied : hub.Emptied) {op : HubOp}
    (alive : hub.opensAlive op) : (hub.step op).Emptied := by
  -- while the manager has gone away, no handle is found
  have absent {id : StreamID} {handle : StreamHandle} (gone : hub.manager.goneAway = true)
      (found : hub.getStream id = some handle) : False := by
    simp [getStream, emptied gone] at found
  have spec := hub.step_spec op
  generalize hub.step op = hub' at spec
  intro gone
  cases spec with
  | created remote window needsSyn newId newKey hub' opened =>
      obtain ⟨room, -, -, -, -, -, -, goneAway, -⟩ := createStream_eq_ok opened
      rcases alive with isAlive | full
      · rw [goneAway, isAlive] at gone
        cases gone
      · exact absurd full room
  | pollSend sending _ polled hub' spec =>
      cases spec with
      | unregistered _ => exact emptied gone
      | reset _ found _ _ => exact (absent gone found).elim
      | waiting _ found _ _ _ => exact (absent gone found).elim
      | delivered _ found _ _ _ _ => exact (absent gone found).elim
      | ignored _ found _ _ _ _ => exact (absent gone found).elim
      | refused _ found _ _ _ _ => exact (absent gone found).elim
  | closeDataWrite id handle found => exact (absent gone found).elim
  | system _ cx isAlive frame rest _ =>
      unfold nextSystemFrame at gone ⊢
      split at gone
      · rfl
      · have same : hub.manager.goneAway = true := gone
        rw [isAlive] at same
        cases same
  | next _ cx isAlive _ index id key task item sink answer handle found polled hub' spec =>
      have same := (next_rest spec).2.1
      rw [gone, show (hub.storeWaker cx).manager.goneAway = false from isAlive] at same
      cases same
  | goAway _ => rfl
  | dropManager => rfl
  | idle _ => exact emptied gone
  | panicked _ _ => exact emptied gone
  | startSend _ _ _ => exact emptied gone
  | waiting _ _ => exact emptied gone
  | sysSend _ => exact emptied gone
  | closeSenders => exact emptied gone
  | user _ _ _ _ _ => exact emptied gone

end Hub

namespace Session

variable {window acceptQueueSize streamLimit : Nat} {client : Bool} {session : Session}

/-- The step asks for no stream of a manager that has gone away and has room. -/
def opensAlive (session : Session) (op : SessionOp) : Prop :=
  session.callsCreateStream op → session.hub.manager.goneAway = false ∨
    session.hub.len = session.hub.manager.streamLimit

/-- After a GOAWAY the table is empty as long as nothing asks for a stream, but every
request would succeed unless the session allows no stream at all. -/
theorem streams_eq_empty_of_goneAway
    (reaches : Reaches Session.step opensAlive
      (Session.new window acceptQueueSize streamLimit client) session)
    (gone : session.hub.manager.goneAway = true) :
    session.hub.manager.streams = ∅ ∧ ∀ id window needsSyn,
      (∃ error, session.hub.createStream id window needsSyn = .error error) ↔
        streamLimit = 0 := by
  have runs : Reaches Hub.step Hub.opensAlive (Hub.new streamLimit client) session.hub := by
    refine hub_reaches reaches fun session op hubOp alive calls => ?_
    cases hubOp with
    | createStream id window needsSyn => exact alive (calls id window needsSyn rfl)
    | _ => trivial
  have emptied : session.hub.Emptied :=
    runs.invariant Hub.Emptied (fun _ _ alive emptied => emptied.step alive)
      (fun gone => by cases gone)
  have limit : session.hub.manager.streamLimit = streamLimit := by
    refine runs.invariant (fun hub => hub.manager.streamLimit = streamLimit)
      (fun hub op _ limit => ?_) rfl
    rw [Hub.step_streamLimit]
    exact limit
  refine ⟨emptied gone, fun id window needsSyn => ?_⟩
  rw [Hub.createStream_fails_iff, limit, Hub.len, emptied gone]
  exact eq_comm

theorem streams_eq_empty_of_goneAway_remote :
    (run Session.step (Session.new 8 4 4 true)
      [.recv (encodeBytes (goAwayFrame .none)), .readFrame, .readerStep,
        .readerStep]).hub.manager.streams = ∅ := by
  have admitted : Admitted Session.step opensAlive (Session.new 8 4 4 true)
      [.recv (encodeBytes (goAwayFrame .none)), .readFrame, .readerStep, .readerStep] :=
    ⟨fun calls => calls.elim, fun calls => calls.elim, fun _ => Or.inl rfl, fun _ => Or.inl rfl,
      trivial⟩
  exact (streams_eq_empty_of_goneAway (reaches_run admitted) rfl).1

/-- After the GOAWAY of the remote the write task still serves a request, and the
application gets a stream. -/
theorem opened_after_goAway :
    let dead := run Session.step (Session.new 8 4 4 true)
      [.recv (encodeBytes (goAwayFrame .none)), .readFrame, .readerStep, .readerStep]
    let after := run Session.step dead [.open, .serveOpen]
    dead.hub.manager.goneAway = true ∧ after.opened = [.ok 0] ∧
      after.hub.manager.streams ≠ ∅ := by
  refine ⟨rfl, rfl, fun empty => ?_⟩
  have found : (∅ : AList fun _ : StreamID => StreamHandle).lookup (Constrained.clamp 3) =
      some ⟨0, true, false, 8⟩ := empty ▸ rfl
  cases found

end Session

end Muxado

end NgrokRust
