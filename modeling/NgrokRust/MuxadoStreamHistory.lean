import NgrokRust.MuxadoCodec
import NgrokRust.MuxadoManagerSteps

/-!
# Conservation laws of one stream end

What a stream end has accepted, sent, received and returned is related by laws
that every elementary change keeps, whatever the manager and the peer do:

* bytes received were taken from the channel in order and are either returned or
  still buffered;
* bytes accepted are either sent or queued for the manager, in order, and nothing
  is written after the final frame;
* credit given back never exceeds the bytes returned, and the send window never
  exceeds what the credit received allows.
-/

namespace NgrokRust

namespace Muxado

open LabelledRuns

/-- `taken` are the frames that a stream end has ingested and `left` those after
them. -/
structure TakenFrames (target : StreamEnd) (taken left : List Frame) : Prop where
  recvd : target.recvd = taken ++ left
  queue : target.dropped = false → target.stream.fin.queue = left
  gone : target.dropped = true → target.stream.fin.isOpen = false
  bytes : target.returned ++ target.stream.readBuf = payloads taken
  closed_of_fin : ∀ frame ∈ taken, frame.isFin = true → target.stream.dataReadClosed = true
  fin_or_closed : target.stream.dataReadClosed = true →
    (∃ frame ∈ taken, frame.isFin = true) ∨ target.stream.fin.isOpen = false ∧ left = []

/-- Everything received is taken in order, and every byte taken is returned or
buffered. -/
def ReadHistory (target : StreamEnd) : Prop :=
  ∃ taken left, TakenFrames target taken left

theorem ReadHistory.create (id : StreamID) (window : Nat) (needsSyn : Bool) :
    ReadHistory (StreamEnd.create id window needsSyn) := by
  refine ⟨[], [], rfl, fun _ => rfl, fun dropped => ?_, rfl, by simp, fun closed => ?_⟩
  · cases dropped
  · cases closed

theorem ReadHistory.change {actor : StreamEnd.Actor} {before after : StreamEnd}
    (change : StreamEnd.Change actor before after) (law : ReadHistory before) :
    ReadHistory after := by
  obtain ⟨taken, left, split⟩ := law
  cases change with
  | ingest frame rest held queue kind =>
      have leftEq : left = frame :: rest := (split.queue held).symm.trans queue
      refine ⟨taken ++ [frame], rest, ?_, fun _ => rfl, split.gone, ?_, ?_, ?_⟩
      · simp [split.recvd, leftEq]
      · rw [payloads_append, ← split.bytes]
        simp [Stream.ingest]
      · intro other member isFin
        simp only [Stream.ingest, Bool.or_eq_true]
        rcases List.mem_append.mp member with old | new
        · exact Or.inl (split.closed_of_fin other old isFin)
        · obtain rfl := List.mem_singleton.mp new
          exact Or.inr isFin
      · intro closed
        simp only [Stream.ingest, Bool.or_eq_true] at closed
        rcases closed with closed | isFin
        · rcases split.fin_or_closed closed with ⟨other, member, isFin⟩ | ⟨-, drained⟩
          · exact Or.inl ⟨other, List.mem_append_left _ member, isFin⟩
          · simp [drained] at leftEq
        · exact Or.inl ⟨frame, by simp, isFin⟩
  | seeClosed held queue closed =>
      refine ⟨taken, left, { split with
        closed_of_fin := fun _ _ _ => rfl
        fin_or_closed := ?_ }⟩
      exact fun _ => Or.inr ⟨closed, (split.queue held).symm.trans queue⟩
  | takeAcked by' held pos le code isOpen =>
      exact ⟨taken, left, { split with bytes := by simpa using split.bytes }⟩
  | takeUnacked count held gone =>
      exact ⟨taken, left, { split with bytes := by simpa using split.bytes }⟩
  | drop held =>
      refine ⟨taken, left, { split with
        queue := fun held => by cases held
        gone := fun _ => rfl
        fin_or_closed := ?_ }⟩
      intro closed
      exact (split.fin_or_closed closed).imp_right fun drained => ⟨rfl, drained.2⟩
  | receive frame kind isOpen =>
      have held : before.dropped = false := by
        by_contra dropped
        rw [split.gone (by simpa using dropped)] at isOpen
        cases isOpen
      refine ⟨taken, left ++ [frame], { split with
        recvd := ?_
        queue := fun _ => ?_
        gone := ?_
        fin_or_closed := ?_ }⟩
      · simp [StreamEnd.receive, split.recvd]
      · simp [StreamEnd.receive, split.queue held]
      · intro dropped
        simp [StreamEnd.receive, held] at dropped
      · intro closed
        refine (split.fin_or_closed closed).imp_right fun drained => ?_
        rw [drained.1] at isOpen
        cases isOpen
  | closeFin =>
      refine ⟨taken, left, { split with
        gone := fun _ => rfl
        fin_or_closed := ?_ }⟩
      intro closed
      exact (split.fin_or_closed closed).imp_right fun drained => ⟨rfl, drained.2⟩
  | rewake _ _ _ _ => exact ⟨taken, left, { split with }⟩
  | disconnect _ _ => exact ⟨taken, left, { split with }⟩
  | failWrite _ _ _ => exact ⟨taken, left, { split with }⟩
  | write _ _ _ _ _ _ _ _ _ => exact ⟨taken, left, { split with }⟩
  | shutdown _ _ _ _ => exact ⟨taken, left, { split with }⟩
  | closeWith _ => exact ⟨taken, left, { split with }⟩
  | emit _ _ _ _ => exact ⟨taken, left, { split with }⟩
  | emitFin _ _ _ _ => exact ⟨taken, left, { split with }⟩
  | dropReceiver => exact ⟨taken, left, { split with }⟩

namespace Stream

variable {stream stream' : Stream} {cx : Waker} {remaining rounds : Nat}

/-- With room for at least one byte, only an empty buffer returns none. -/
theorem readBuf_of_readBuffered_nil (pos : 0 < remaining) (small : remaining < 2 ^ 32)
    (read : stream.readBuffered remaining = (.ready (.ok []), stream')) :
    stream.readBuf = [] ∧ stream' = stream := by
  unfold readBuffered at read
  split at read
  · rename_i empty
    exact ⟨List.isEmpty_iff.mp empty, (Prod.mk.inj read).2.symm⟩
  · rename_i nonempty
    exfalso
    have filled : 0 < stream.readBuf.length := by
      rw [List.length_pos_iff]
      exact fun empty => nonempty (List.isEmpty_iff.mpr empty)
    have room : 0 < (Constrained.clamp (asU32 (min stream.readBuf.length remaining)) : WndInc).val := by
      rw [Constrained.clamp_val, asU32_of_lt (by omega)]
      simp only [wndIncMax]
      omega
    simp only [gt_iff_lt, room, if_true] at read
    split at read
    · cases read
    · have bytes := (Prod.mk.inj read).1
      simp only [Poll.ready.injEq, Except.ok.injEq, List.take_eq_nil_iff] at bytes
      rename_i taken sent
      have kept : taken.readBuf = stream.readBuf := by
        rw [← pollSendWndinc_readBuf stream, sent]
      rw [kept] at bytes
      rcases bytes with zero | empty
      · omega
      · rw [empty] at filled
        cases filled

/-- A read that returns nothing has found an empty buffer and the end of the stream. -/
theorem ended_of_readLoop_nil (pos : 0 < remaining) (small : remaining < 2 ^ 32)
    (read : readLoop cx remaining rounds stream = .ok (.ready (.ok []), stream')) :
    stream'.readBuf = [] ∧ stream'.dataReadClosed = true := by
  have buffered {stream : Stream} (ends : (!stream.readBuf.isEmpty || stream.dataReadClosed) = true)
      (read : stream.readBuffered remaining = (.ready (.ok []), stream')) :
      stream'.readBuf = [] ∧ stream'.dataReadClosed = true := by
    obtain ⟨empty, rfl⟩ := readBuf_of_readBuffered_nil pos small read
    refine ⟨empty, ?_⟩
    simpa [empty] using ends
  induction rounds generalizing stream with
  | zero =>
      unfold readLoop at read
      split at read
      · rename_i ends
        exact buffered ends (Except.ok.inj read)
      · cases read
  | succ rounds ih =>
      unfold readLoop at read
      split at read
      · rename_i ends
        exact buffered ends (Except.ok.inj read)
      · cases received : ({ stream with readWaker := some cx }.pollRecvData cx) with
        | error panic => simp [received, bind, Except.bind] at read
        | ok outcome =>
            obtain ⟨polled, taken⟩ := outcome
            simp only [received, bind, Except.bind] at read
            cases polled with
            | pending => cases read
            | ready _ => exact ih read

end Stream

namespace ReadHistory

/-- What a read that returns nothing says about the frames received: there was a final
one and the bytes before it are returned, or the channel is closed and all bytes
are. -/
theorem of_pollRead_nil {target : StreamEnd} (history : ReadHistory target)
    (held : target.dropped = false) {cx : Waker} {remaining : Nat} {stream' : Stream}
    (pos : 0 < remaining) (small : remaining < 2 ^ 32)
    (read : target.stream.pollRead cx remaining = .ok (.ready (.ok []), stream')) :
    (∃ before frame after, target.recvd = before ++ frame :: after ∧ frame.isFin = true ∧
        payloads (before ++ [frame]) <+: target.returned) ∨
      stream'.fin.isOpen = false ∧ target.returned = payloads target.recvd := by
  obtain ⟨empty, ended⟩ := Stream.ended_of_readLoop_nil pos small read
  have after := (StreamEnd.changes_pollRead held read).keep ReadHistory.change history
  obtain ⟨taken, left, split⟩ := after
  have bytes := split.bytes
  simp only [empty, bytesRead, List.append_nil] at bytes
  have recvd : target.recvd = taken ++ left := split.recvd
  rcases split.fin_or_closed ended with ⟨frame, member, isFin⟩ | ⟨closed, drained⟩
  · left
    obtain ⟨before, later, rfl⟩ := List.mem_iff_append.mp member
    refine ⟨before, frame, later ++ left, by simp [recvd], isFin, ?_⟩
    rw [bytes]
    exact ⟨payloads later, by simp⟩
  · right
    refine ⟨closed, ?_⟩
    rw [bytes, recvd, drained, List.append_nil]

end ReadHistory

/-- The frames that a stream sends: data and positive window increments with the
header that belongs to them, where only data opens a stream and only empty data
ends it. -/
structure StreamFrame (frame : Frame) : Prop where
  deliverable : frame.Deliverable
  typ_eq : frame.header.typ = frame.body.headerType
  length_eq : frame.header.length.val = (encodeBody frame.body).length
  fin_data : frame.isFin = true → frame.isData = true ∧ frame.payload = []
  syn_data : frame.isSyn = true → frame.isData = true
  credit_pos : frame.isData = false → 0 < frame.credit

namespace StreamFrame

theorem withStreamId {frame : Frame} (shape : StreamFrame frame) (id : StreamID) :
    StreamFrame (frame.withStreamId id) :=
  { shape with }

theorem data {bytes : List UInt8} (fits : bytes.length ≤ lengthMax) :
    StreamFrame (Frame.ofBody (.data bytes)) where
  deliverable := Or.inl ⟨_, rfl⟩
  typ_eq := rfl
  length_eq := by
    have small : bytes.length < 2 ^ 32 := by
      simp only [lengthMax] at fits
      omega
    simp only [Frame.ofBody, Body.clampLen, Body.len, encodeBody, Constrained.clamp_val,
      List.length_take, Nat.min_eq_right fits, Nat.min_self, asU32_of_lt small]
    exact Nat.min_eq_left fits
  fin_data := nofun
  syn_data := nofun
  credit_pos := nofun

theorem syn {frame : Frame} (shape : StreamFrame frame) (isData : frame.isData = true) :
    StreamFrame frame.syn :=
  { shape with syn_data := fun _ => isData }

theorem fin {frame : Frame} (shape : StreamFrame frame) (isData : frame.isData = true)
    (empty : frame.payload = []) : StreamFrame frame.fin :=
  { shape with fin_data := fun _ => ⟨isData, empty⟩ }

theorem finFrame : StreamFrame Stream.finFrame :=
  (data (show ([] : List UInt8).length ≤ lengthMax from Nat.zero_le _)).fin rfl (List.take_nil)

theorem wndInc {increment : WndInc} (pos : 0 < increment.val) :
    StreamFrame (Frame.ofBody (.wndInc increment)) where
  deliverable := Or.inr ⟨_, rfl⟩
  typ_eq := rfl
  length_eq := by simp [Frame.ofBody, Body.clampLen, Body.len, encodeBody, asU32, lengthMax]
  fin_data := nofun
  syn_data := nofun
  credit_pos := fun _ => pos

end StreamFrame

def FinLast (frames : List Frame) : Prop :=
  frames.Pairwise fun earlier later =>
    earlier.isFin = true → later.isData = true → later.isFin = true ∧ later.payload = []

def SynFirst (frames : List Frame) : Prop :=
  frames.Pairwise fun earlier later =>
    later.isSyn = true → earlier.isData = false ∧ earlier.isSyn = false

namespace StreamEnd

def outgoing (target : StreamEnd) : List Frame :=
  target.sent ++ target.stream.fout.sink.queue

end StreamEnd

/-- What was accepted is sent in order, up to a final frame. -/
structure WriteHistory (target : StreamEnd) : Prop where
  alive : target.stream.fout.sink.receiverAlive = true →
    payloads target.sent ++ payloads target.stream.fout.sink.queue = target.accepted
  gone : target.stream.fout.sink.receiverAlive = false →
    target.stream.fout.sink.isOpen = false ∧ target.stream.fout.sink.queue = []
  sent : payloads target.sent <+: target.accepted
  shape : ∀ frame ∈ target.outgoing, StreamFrame frame
  finLast : FinLast target.outgoing
  finCloses : (∃ frame ∈ target.outgoing, frame.isFin = true) →
    target.stream.writeClosed ≠ none ∨ target.stream.fout.sink.isOpen = false
  finSent : ∀ frame ∈ target.sent, frame.isFin = true → payloads target.sent = target.accepted
  synFirst : SynFirst target.outgoing
  synless : target.opener = false ∨ target.stream.needsSyn = true →
    ∀ frame ∈ target.outgoing, frame.isSyn = false
  acceptor : target.opener = false → target.stream.needsSyn = false
  unopened : target.stream.needsSyn = true → target.stream.writeClosed = none →
    target.stream.fout.sink.isOpen = true → ∀ frame ∈ target.outgoing, frame.isData = false

namespace WriteHistory

theorem create (id : StreamID) (window : Nat) (needsSyn : Bool) :
    WriteHistory (StreamEnd.create id window needsSyn) := by
  have nothing : (StreamEnd.create id window needsSyn).outgoing = [] := rfl
  have sent : (StreamEnd.create id window needsSyn).sent = [] := rfl
  constructor
  case alive => exact fun _ => rfl
  case gone => exact fun gone => absurd gone (by simp [StreamEnd.create, Stream.new, StreamSender.wrap])
  case sent => exact List.prefix_rfl
  case finSent => simp [sent]
  case acceptor => exact fun isAcceptor => isAcceptor
  case finLast => rw [nothing]; exact .nil
  case synFirst => rw [nothing]; exact .nil
  all_goals simp [nothing]

theorem payload_of_not_data {frame : Frame} (notData : frame.isData = false) :
    frame.payload = [] := by
  unfold Frame.isData at notData
  unfold Frame.payload Body.payload
  split <;> simp_all

/-- A frame is put at the back of the outgoing ones. -/
theorem push {before after : StreamEnd} (law : WriteHistory before)
    (isOpen : before.stream.fout.sink.isOpen = true) {frame : Frame} (shape : StreamFrame frame)
    (sent : after.sent = before.sent)
    (sink : after.stream.fout.sink = before.stream.fout.sink.push frame)
    (accepted : after.accepted = before.accepted ++ frame.payload)
    (opener : after.opener = before.opener)
    (written : before.stream.writeClosed ≠ none → after.stream.writeClosed ≠ none)
    (ended : frame.isFin = true → after.stream.writeClosed ≠ none)
    (writable : frame.isData = true → before.stream.writeClosed = none)
    (opens : frame.isSyn = true → before.stream.needsSyn = true ∧ after.stream.needsSyn = false)
    (needsSyn : after.stream.needsSyn = true → before.stream.needsSyn = true)
    (acceptor : before.stream.needsSyn = false → after.stream.needsSyn = false)
    (unopened : after.stream.needsSyn = true → after.stream.writeClosed = none →
      frame.isData = false) :
    WriteHistory after := by
  have grows : after.outgoing = before.outgoing ++ [frame] := by
    simp [StreamEnd.outgoing, sent, sink]
  have aliveBefore : before.stream.fout.sink.receiverAlive = true := by
    by_contra dead
    have closed := (law.gone (by simpa using dead)).1
    rw [isOpen] at closed
    cases closed
  -- a data frame comes only before the final one
  have noFin (isData : frame.isData = true) : ∀ other ∈ before.outgoing, other.isFin = false := by
    intro other member
    by_contra isFin
    rcases law.finCloses ⟨other, member, by simpa using isFin⟩ with closed | closed
    · exact closed (writable isData)
    · rw [isOpen] at closed
      cases closed
  constructor
  case alive =>
    intro _
    rw [accepted, ← law.alive aliveBefore, sent, sink]
    simp
  case gone =>
    intro dead
    rw [sink, Channel.push_receiverAlive, aliveBefore] at dead
    cases dead
  case sent =>
    rw [sent, accepted]
    exact law.sent.trans (List.prefix_append _ _)
  case shape =>
    rw [grows]
    intro other member
    rcases List.mem_append.mp member with old | new
    · exact law.shape other old
    · obtain rfl := List.mem_singleton.mp new
      exact shape
  case finLast =>
    rw [grows]
    refine List.pairwise_append.mpr ⟨law.finLast, List.pairwise_singleton _ _, ?_⟩
    intro earlier member later new isFin isData
    obtain rfl := List.mem_singleton.mp new
    rw [noFin isData earlier member] at isFin
    cases isFin
  case finCloses =>
    rw [grows]
    rintro ⟨other, member, isFin⟩
    rcases List.mem_append.mp member with old | new
    · rcases law.finCloses ⟨other, old, isFin⟩ with closed | closed
      · exact Or.inl (written closed)
      · rw [isOpen] at closed
        cases closed
    · obtain rfl := List.mem_singleton.mp new
      exact Or.inl (ended isFin)
  case finSent =>
    rw [sent, accepted]
    intro other member isFin
    have empty : frame.payload = [] := by
      by_cases isData : frame.isData = true
      · have notFin := noFin isData other (List.mem_append_left _ member)
        rw [isFin] at notFin
        cases notFin
      · exact payload_of_not_data (by simpa using isData)
    rw [empty, List.append_nil]
    exact law.finSent other member isFin
  case synFirst =>
    rw [grows]
    refine List.pairwise_append.mpr ⟨law.synFirst, List.pairwise_singleton _ _, ?_⟩
    intro earlier member later new isSyn
    obtain rfl := List.mem_singleton.mp new
    have first := (opens isSyn).1
    exact ⟨law.unopened first (writable (shape.syn_data isSyn)) isOpen earlier member,
      law.synless (Or.inr first) earlier member⟩
  case synless =>
    rw [grows, opener]
    intro reason other member
    rcases List.mem_append.mp member with old | new
    · exact law.synless (reason.imp_right needsSyn) other old
    · obtain rfl := List.mem_singleton.mp new
      by_contra isSyn
      obtain ⟨first, opened⟩ := opens (by simpa using isSyn)
      rcases reason with isAcceptor | unopened
      · rw [law.acceptor isAcceptor] at first
        cases first
      · rw [opened] at unopened
        cases unopened
  case acceptor =>
    rw [opener]
    exact fun isAcceptor => acceptor (law.acceptor isAcceptor)
  case unopened =>
    rw [grows]
    intro first writableAfter _ other member
    rcases List.mem_append.mp member with old | new
    · have writableBefore : before.stream.writeClosed = none := by
        by_contra closed
        exact written closed writableAfter
      exact law.unopened (needsSyn first) writableBefore isOpen other old
    · obtain rfl := List.mem_singleton.mp new
      exact unopened first writableAfter

/-- The manager takes a frame from the front of the queue and yields it under an id. -/
theorem emit {before after : StreamEnd} (law : WriteHistory before) {frame : Frame}
    {rest : List Frame} {id : StreamID}
    (queue : before.stream.fout.sink.queue = frame :: rest)
    (sent : after.sent = before.sent ++ [frame.withStreamId id])
    (sink : after.stream.fout.sink = { before.stream.fout.sink with queue := rest })
    (others : after.accepted = before.accepted ∧ after.opener = before.opener ∧
      after.stream.writeClosed = before.stream.writeClosed ∧
      after.stream.needsSyn = before.stream.needsSyn) :
    WriteHistory after := by
  obtain ⟨accepted, opener, writeClosed, needsSyn⟩ := others
  have outgoingBefore : before.outgoing = before.sent ++ frame :: rest := by
    simp [StreamEnd.outgoing, queue]
  have outgoingAfter : after.outgoing = before.sent ++ frame.withStreamId id :: rest := by
    simp [StreamEnd.outgoing, sent, sink]
  -- the id on a frame is not what the laws are about
  have same (other : Frame) (member : other ∈ after.outgoing) :
      ∃ old ∈ before.outgoing, other = old ∨ other = old.withStreamId id := by
    rw [outgoingAfter] at member
    rw [outgoingBefore]
    rcases List.mem_append.mp member with old | member
    · exact ⟨other, by simp [old], Or.inl rfl⟩
    · rcases List.mem_cons.mp member with rfl | old
      · exact ⟨frame, by simp, Or.inr rfl⟩
      · exact ⟨other, by simp [old], Or.inl rfl⟩
  have aliveBefore : before.stream.fout.sink.receiverAlive = true := by
    by_contra dead
    have drained := (law.gone (by simpa using dead)).2
    rw [queue] at drained
    cases drained
  have split := law.alive aliveBefore
  rw [queue, payloads_cons] at split
  constructor
  case alive =>
    intro _
    rw [accepted, sent, sink, payloads_append, ← split]
    simp
  case gone =>
    intro dead
    rw [sink, aliveBefore] at dead
    cases dead
  case sent =>
    rw [accepted, sent, payloads_append, ← split]
    exact ⟨payloads rest, by simp⟩
  case shape =>
    intro other member
    obtain ⟨old, oldMember, rfl | rfl⟩ := same other member
    · exact law.shape _ oldMember
    · exact (law.shape old oldMember).withStreamId id
  case finLast =>
    have finLast := law.finLast
    rw [outgoingBefore, FinLast, List.pairwise_append, List.pairwise_cons] at finLast
    rw [outgoingAfter, FinLast, List.pairwise_append, List.pairwise_cons]
    simp only [List.mem_cons, forall_eq_or_imp] at finLast ⊢
    exact finLast
  case finCloses =>
    rintro ⟨other, member, isFin⟩
    rw [writeClosed, sink]
    obtain ⟨old, oldMember, rfl | rfl⟩ := same other member
    · exact law.finCloses ⟨_, oldMember, isFin⟩
    · exact law.finCloses ⟨old, oldMember, isFin⟩
  case finSent =>
    rw [sent, accepted]
    intro other member isFin
    have finLast := law.finLast
    rw [outgoingBefore, FinLast, List.pairwise_append, List.pairwise_cons] at finLast
    rcases List.mem_append.mp member with old | new
    · have empty : frame.payload = [] := by
        by_cases isData : frame.isData = true
        · exact (finLast.2.2 other old frame (by simp) isFin isData).2
        · exact payload_of_not_data (by simpa using isData)
      rw [payloads_append, law.finSent other old isFin]
      simp [empty]
    · obtain rfl := List.mem_singleton.mp new
      have empty : payloads rest = [] := by
        refine List.flatMap_eq_nil_iff.mpr fun later member => ?_
        by_cases isData : later.isData = true
        · exact (finLast.2.1.1 later member isFin isData).2
        · exact payload_of_not_data (by simpa using isData)
      rw [payloads_append, ← split, empty]
      simp
  case synFirst =>
    have synFirst := law.synFirst
    rw [outgoingBefore, SynFirst, List.pairwise_append, List.pairwise_cons] at synFirst
    rw [outgoingAfter, SynFirst, List.pairwise_append, List.pairwise_cons]
    simp only [List.mem_cons, forall_eq_or_imp] at synFirst ⊢
    exact synFirst
  case synless =>
    rw [opener, needsSyn]
    intro reason other member
    obtain ⟨old, oldMember, rfl | rfl⟩ := same other member
    · exact law.synless reason _ oldMember
    · exact law.synless reason old oldMember
  case acceptor =>
    rw [opener, needsSyn]
    exact law.acceptor
  case unopened =>
    rw [needsSyn, writeClosed, sink]
    intro first writable isOpen other member
    obtain ⟨old, oldMember, rfl | rfl⟩ := same other member
    · exact law.unopened first writable isOpen _ oldMember
    · exact law.unopened first writable isOpen old oldMember

/-- The receiver of the frames is gone, and with it the frames not taken yet. -/
theorem dropReceiver {before after : StreamEnd} (law : WriteHistory before)
    (sent : after.sent = before.sent)
    (sink : after.stream.fout.sink = before.stream.fout.sink.dropReceiver)
    (others : after.accepted = before.accepted ∧ after.opener = before.opener ∧
      after.stream.writeClosed = before.stream.writeClosed ∧
      after.stream.needsSyn = before.stream.needsSyn) :
    WriteHistory after := by
  obtain ⟨accepted, opener, writeClosed, needsSyn⟩ := others
  have outgoing : after.outgoing = before.sent := by simp [StreamEnd.outgoing, sent, sink]
  have fewer : before.sent.Sublist before.outgoing := List.sublist_append_left _ _
  have member {frame : Frame} (inSent : frame ∈ before.sent) : frame ∈ before.outgoing :=
    fewer.mem inSent
  constructor
  case alive =>
    intro alive
    rw [sink, Channel.dropReceiver_receiverAlive] at alive
    cases alive
  case gone => rw [sink]; exact fun _ => ⟨rfl, rfl⟩
  case sent => rw [sent, accepted]; exact law.sent
  case shape => rw [outgoing]; exact fun frame inSent => law.shape frame (member inSent)
  case finLast => rw [outgoing]; exact law.finLast.sublist fewer
  case finCloses => rw [sink]; exact fun _ => Or.inr rfl
  case finSent => rw [sent, accepted]; exact law.finSent
  case synFirst => rw [outgoing]; exact law.synFirst.sublist fewer
  case synless =>
    rw [outgoing, opener, needsSyn]
    exact fun reason frame inSent => law.synless reason frame (member inSent)
  case acceptor => rw [opener, needsSyn]; exact law.acceptor
  case unopened =>
    intro _ _ isOpen
    rw [sink, Channel.dropReceiver_isOpen] at isOpen
    cases isOpen

/-- A dropped stream without a final frame of its own is ended with one. -/
theorem emitFin {before after : StreamEnd} (law : WriteHistory before) {id : StreamID}
    (alive : before.stream.fout.sink.receiverAlive = true)
    (queue : before.stream.fout.sink.queue = [])
    (sent : after.sent = before.sent ++ [Stream.finFrame.withStreamId id])
    (sink : after.stream.fout.sink = before.stream.fout.sink.dropReceiver)
    (others : after.accepted = before.accepted ∧ after.opener = before.opener ∧
      after.stream.writeClosed = before.stream.writeClosed ∧
      after.stream.needsSyn = before.stream.needsSyn) :
    WriteHistory after := by
  obtain ⟨accepted, opener, writeClosed, needsSyn⟩ := others
  have outgoingBefore : before.outgoing = before.sent := by simp [StreamEnd.outgoing, queue]
  have outgoing : after.outgoing = before.sent ++ [Stream.finFrame.withStreamId id] := by
    simp [StreamEnd.outgoing, sent, sink]
  have empty : (Stream.finFrame.withStreamId id).payload = [] := List.take_nil
  have whole : payloads before.sent = before.accepted := by
    simpa [queue] using law.alive alive
  constructor
  case alive =>
    intro aliveAfter
    rw [sink, Channel.dropReceiver_receiverAlive] at aliveAfter
    cases aliveAfter
  case gone => rw [sink]; exact fun _ => ⟨rfl, rfl⟩
  case sent => rw [sent, accepted, payloads_append, whole]; simp [empty]
  case shape =>
    rw [outgoing]
    intro frame member
    rcases List.mem_append.mp member with old | new
    · exact law.shape frame (outgoingBefore ▸ old)
    · obtain rfl := List.mem_singleton.mp new
      exact StreamFrame.finFrame.withStreamId id
  case finLast =>
    rw [outgoing]
    have finLast := law.finLast
    rw [outgoingBefore] at finLast
    refine List.pairwise_append.mpr ⟨finLast, List.pairwise_singleton _ _, ?_⟩
    intro earlier _ later new _ _
    obtain rfl := List.mem_singleton.mp new
    exact ⟨rfl, empty⟩
  case finCloses => rw [sink]; exact fun _ => Or.inr rfl
  case finSent =>
    intro _ _ _
    rw [sent, accepted, payloads_append, whole]
    simp [empty]
  case synFirst =>
    rw [outgoing]
    have synFirst := law.synFirst
    rw [outgoingBefore] at synFirst
    refine List.pairwise_append.mpr ⟨synFirst, List.pairwise_singleton _ _, ?_⟩
    intro earlier _ later new isSyn
    obtain rfl := List.mem_singleton.mp new
    cases isSyn
  case synless =>
    rw [outgoing, opener, needsSyn]
    intro reason frame member
    rcases List.mem_append.mp member with old | new
    · exact law.synless reason frame (outgoingBefore ▸ old)
    · obtain rfl := List.mem_singleton.mp new
      rfl
  case acceptor => rw [opener, needsSyn]; exact law.acceptor
  case unopened =>
    intro _ _ isOpen
    rw [sink, Channel.dropReceiver_isOpen] at isOpen
    cases isOpen

theorem change {actor : StreamEnd.Actor} {before after : StreamEnd}
    (change : StreamEnd.Change actor before after) (law : WriteHistory before) :
    WriteHistory after := by
  cases change with
  | takeAcked by' held pos le code isOpen =>
      refine law.push isOpen (StreamFrame.wndInc pos) rfl rfl ?_ rfl id ?_ ?_ ?_ id id ?_
      · exact (List.append_nil _).symm
      · intro isFin; cases isFin
      · intro isData; cases isData
      · intro isSyn; cases isSyn
      · exact fun _ _ => rfl
  | write buf count held writable code isOpen credit le fits =>
      have payload : (Frame.ofBody (.data (buf.take count))).payload = buf.take count := by
        have short : (buf.take count).length ≤ lengthMax := by
          rw [List.length_take]
          exact (min_le_left _ _).trans fits
        simp only [Frame.ofBody, Frame.payload, Body.clampLen, Body.payload]
        exact List.take_of_length_le (le_min short le_rfl)
      have shape : StreamFrame (Frame.ofBody (.data (buf.take count))) :=
        StreamFrame.data (by rw [List.length_take]; exact (min_le_left _ _).trans fits)
      by_cases first : before.stream.needsSyn = true
      · refine law.push isOpen (shape.syn rfl) rfl (by rw [if_pos first]) ?_ rfl ?_ ?_ ?_ ?_ ?_ ?_ ?_
        · rw [Frame.payload, Frame.syn_body]
          exact congrArg _ payload.symm
        · exact fun closed => absurd writable closed
        · intro isFin; cases isFin
        · exact fun _ => writable
        · exact fun _ => ⟨first, rfl⟩
        · intro unopened; cases unopened
        · exact fun _ => rfl
        · intro unopened; cases unopened
      · refine law.push isOpen shape rfl (by rw [if_neg first]) ?_ rfl ?_ ?_ ?_ ?_ ?_ ?_ ?_
        · exact congrArg _ payload.symm
        · exact fun closed => absurd writable closed
        · intro isFin; cases isFin
        · exact fun _ => writable
        · intro isSyn; cases isSyn
        · intro unopened; cases unopened
        · exact fun _ => rfl
        · intro unopened; cases unopened
  | shutdown held writable code isOpen =>
      refine law.push isOpen StreamFrame.finFrame rfl rfl ?_ rfl ?_ ?_ ?_ ?_ id id ?_
      · exact (List.append_nil _).symm.trans (congrArg _ List.take_nil.symm)
      · exact fun _ => Option.some_ne_none _
      · exact fun _ => Option.some_ne_none _
      · exact fun _ => writable
      · intro isSyn; cases isSyn
      · intro _ writableAfter; cases writableAfter
  | emit frame rest id queue => exact law.emit queue rfl rfl ⟨rfl, rfl, rfl, rfl⟩
  | emitFin id alive queue _ => exact law.emitFin alive queue rfl rfl ⟨rfl, rfl, rfl, rfl⟩
  | dropReceiver => exact law.dropReceiver rfl rfl ⟨rfl, rfl, rfl, rfl⟩
  | drop held =>
      exact { law with
        gone := fun dead => ⟨rfl, (law.gone dead).2⟩
        finCloses := fun _ => Or.inr rfl
        unopened := fun _ _ isOpen => by cases isOpen }
  | failWrite error held closed =>
      exact { law with
        finCloses := fun _ => Or.inl (Option.some_ne_none error)
        unopened := fun _ writable => by cases writable }
  | ingest _ _ _ _ _ => exact { law with }
  | seeClosed _ _ _ => exact { law with }
  | takeUnacked _ _ _ => exact { law with }
  | disconnect _ _ => exact { law with }
  | rewake _ _ _ _ => exact { law with }
  | receive _ _ _ => exact { law with }
  | closeFin => exact { law with }
  | closeWith _ => exact { law with }

end WriteHistory

/-- Credit is given back for bytes that were returned, and the send window follows
the credit received. -/
structure CreditHistory (target : StreamEnd) : Prop where
  credit_le : credits target.outgoing ≤ target.returned.length
  credit_eq : target.stream.fout.closer.code = 0 →
    target.stream.fout.sink.receiverAlive = true →
    credits target.outgoing = target.returned.length
  window_le : target.stream.window.size + target.accepted.length +
    credits target.stream.fin.queue ≤ target.stream.window.maxSize + credits target.recvd

namespace CreditHistory

theorem create (id : StreamID) (window : Nat) (needsSyn : Bool) :
    CreditHistory (StreamEnd.create id window needsSyn) where
  credit_le := Nat.zero_le _
  credit_eq := fun _ _ => rfl
  window_le := le_rfl

theorem code_of_closeWith {closer : SinkCloser} {error : Error}
    (isOpen : (closer.closeWith error).code = 0) : closer.code = 0 := by
  by_contra closed
  rw [SinkCloser.closeWith_of_code_ne_zero closed] at isOpen
  exact closed isOpen

theorem change {actor : StreamEnd.Actor} {before after : StreamEnd}
    (change : StreamEnd.Change actor before after) (law : CreditHistory before) :
    CreditHistory after := by
  have le := law.credit_le
  have window := law.window_le
  cases change with
  | ingest frame rest held queue kind =>
      refine { law with window_le := ?_ }
      have size := Window.inc_size before.stream.window frame.credit
      simp only [queue, credits_cons] at window
      simp only [Stream.ingest, Window.inc_maxSize, size]
      omega
  | takeAcked by' held pos le' code isOpen =>
      have taken : (before.stream.readBuf.take by'.val).length = by'.val := by
        rw [List.length_take]
        exact min_eq_left le'
      have credit : (Frame.ofBody (.wndInc by')).credit = by'.val := rfl
      refine { law with credit_le := ?_, credit_eq := fun _ alive => ?_ }
      · simp only [StreamEnd.outgoing, Channel.push_queue, credits_append, credits_cons,
          credits_nil, credit, List.length_append, taken] at le ⊢
        omega
      · have eq := law.credit_eq code alive
        simp only [StreamEnd.outgoing, Channel.push_queue, credits_append, credits_cons,
          credits_nil, credit, List.length_append, taken] at eq ⊢
        omega
  | takeUnacked count held gone =>
      refine { law with credit_le := ?_, credit_eq := fun code => absurd code gone }
      simp only [List.length_append]
      exact le.trans (Nat.le_add_right _ _)
  | write buf count held writable code isOpen credit le' fits =>
      have none (bytes : List UInt8) (first : Bool) :
          (if first = true then (Frame.ofBody (.data bytes)).syn
            else Frame.ofBody (.data bytes)).credit = 0 := by
        cases first <;> rfl
      have size := Window.dec_size before.stream.window count
      refine { law with credit_le := ?_, credit_eq := fun code alive => ?_, window_le := ?_ }
      · simpa [StreamEnd.outgoing, none] using le
      · simpa [StreamEnd.outgoing, none] using law.credit_eq code alive
      · simp only [Window.dec_maxSize, size, List.length_append, List.length_take,
          min_eq_left le'] at window ⊢
        omega
  | shutdown held writable code isOpen =>
      have none : Stream.finFrame.credit = 0 := rfl
      refine { law with credit_le := ?_, credit_eq := fun code alive => ?_ }
      · simpa [StreamEnd.outgoing, none] using le
      · simpa [StreamEnd.outgoing, none] using law.credit_eq code alive
  | drop held =>
      refine { law with window_le := ?_ }
      simp only [Stream.drop, Channel.dropReceiver_queue, credits_nil] at window ⊢
      omega
  | receive frame kind isOpen =>
      refine { law with window_le := ?_ }
      simp only [StreamEnd.receive, Channel.push_queue, credits_append, credits_cons,
        credits_nil] at window ⊢
      omega
  | emit frame rest id queue =>
      refine { law with credit_le := ?_, credit_eq := fun code alive => ?_ }
      · simpa [StreamEnd.outgoing, queue, Nat.add_assoc] using le
      · simpa [StreamEnd.outgoing, queue, Nat.add_assoc] using law.credit_eq code alive
  | emitFin id alive queue closed =>
      have none : Stream.finFrame.credit = 0 := rfl
      refine { law with credit_le := ?_, credit_eq := fun _ alive => by cases alive }
      simpa [StreamEnd.outgoing, queue, none] using le
  | dropReceiver =>
      refine { law with credit_le := ?_, credit_eq := fun _ alive => by cases alive }
      simp only [StreamEnd.outgoing, credits_append, StreamEnd.dropReceiver,
        Channel.dropReceiver_queue, credits_nil] at le ⊢
      omega
  | closeWith error =>
      exact { law with credit_eq := fun code => law.credit_eq (code_of_closeWith code) }
  | disconnect held closed =>
      exact { law with credit_eq := fun code => law.credit_eq (code_of_closeWith code) }
  | seeClosed _ _ _ => exact { law with }
  | failWrite _ _ _ => exact { law with }
  | rewake _ _ _ _ => exact { law with }
  | closeFin => exact { law with }

end CreditHistory

/-- A window that has received no more credit than was written is exact: it did not
run into its maximum. -/
def WindowExact (target : StreamEnd) : Prop :=
  target.stream.window.size + target.accepted.length + credits target.stream.fin.queue =
    target.stream.window.maxSize + credits target.recvd

theorem WindowExact.change {actor : StreamEnd.Actor} {before after : StreamEnd}
    (change : StreamEnd.Change actor before after)
    (bounded : credits before.recvd ≤ before.accepted.length)
    (held : after.dropped = false) (law : WindowExact before) : WindowExact after := by
  have window := law
  unfold WindowExact at window
  cases change with
  | ingest frame rest held queue kind =>
      have size := Window.inc_size before.stream.window frame.credit
      simp only [queue, credits_cons] at window
      simp only [WindowExact, Stream.ingest, Window.inc_maxSize, size]
      omega
  | write buf count held writable code isOpen credit le' fits =>
      have size := Window.dec_size before.stream.window count
      simp only [WindowExact, Window.dec_maxSize, size, List.length_append, List.length_take,
        min_eq_left le'] at window ⊢
      omega
  | drop _ => cases held
  | receive frame kind isOpen =>
      simp only [WindowExact, StreamEnd.receive, Channel.push_queue, credits_append,
        credits_cons, credits_nil] at window ⊢
      omega
  | takeAcked _ _ _ _ _ _ => exact law
  | takeUnacked _ _ _ => exact law
  | shutdown _ _ _ _ => exact law
  | emit _ _ _ _ => exact law
  | emitFin _ _ _ _ => exact law
  | dropReceiver => exact law
  | closeWith _ => exact law
  | disconnect _ _ => exact law
  | seeClosed _ _ _ => exact law
  | failWrite _ _ _ => exact law
  | rewake _ _ _ _ => exact law
  | closeFin => exact law

end Muxado

end NgrokRust
