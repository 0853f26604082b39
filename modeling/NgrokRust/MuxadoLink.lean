import NgrokRust.MuxadoConnection
import NgrokRust.MuxadoSessionEffects

/-!
# The link between two sessions

A session that talks to another one of this code receives exactly the frames that the
other has yielded, in order: the bytes held by the decoder, received, written and lost
spell out the frames that were yielded and not taken yet.  A GOAWAY is the exception,
since its header announces a shorter body than it has; but it is the last frame of its
sender, and the receiver leaves its loop.
-/

namespace NgrokRust

namespace Muxado

open LabelledRuns

namespace SystemFrame

/-- A reset names a stream. -/
def Sendable : SystemFrame → Prop
  | rst streamId _ => streamId.val ≠ 0
  | goaway _ _ _ => True

theorem isSyn_toFrame (system : SystemFrame) : system.toFrame.isSyn = false := by
  cases system <;> rfl

theorem Sendable.wellFormed {system : SystemFrame} (sendable : system.Sendable)
    (typ : system.toFrame.header.typ ≠ .goAway) : system.toFrame.WellFormed := by
  cases system with
  | rst streamId error =>
      refine ⟨(validateHeader_eq_ok_iff _).mpr ⟨sendable, rfl⟩, rfl, rfl⟩
  | goaway _ _ _ => exact absurd rfl typ

theorem Sendable.nextSystemFrame {system : SystemFrame} (sendable : system.Sendable) (hub : Hub) :
    ∃ system' : SystemFrame, system'.Sendable ∧
      (hub.nextSystemFrame system.toFrame).1 = system'.toFrame := by
  cases system with
  | rst streamId error => exact ⟨.rst streamId error, sendable, rfl⟩
  | goaway lastStreamId error message =>
      exact ⟨.goaway hub.manager.lastRemoteId error message, trivial, rfl⟩

end SystemFrame

/-- A frame of a stream with a non-zero id comes through the codec unchanged. -/
theorem StreamFrame.wellFormed {frame : Frame} (shape : StreamFrame frame)
    (nonzero : frame.header.streamId.val ≠ 0) :
    frame.WellFormed ∧ frame.header.typ ≠ .goAway := by
  have typ := shape.typ_eq
  have length := shape.length_eq
  rcases shape.deliverable with ⟨bytes, body⟩ | ⟨increment, body⟩
  · rw [body] at typ
    refine ⟨⟨(validateHeader_eq_ok_iff _).mpr ?_, shape.typ_eq, length⟩, by simp [typ, Body.headerType]⟩
    rw [typ]
    exact nonzero
  · rw [body] at typ length
    refine ⟨⟨(validateHeader_eq_ok_iff _).mpr ?_, shape.typ_eq, shape.length_eq⟩,
      by simp [typ, Body.headerType]⟩
    rw [typ]
    exact ⟨nonzero, length⟩

theorem Frame.WellFormed.streamId_ne_zero {frame : Frame} (wellFormed : frame.WellFormed)
    (typ : frame.header.typ ≠ .goAway) : frame.header.streamId.val ≠ 0 := by
  have valid := (validateHeader_eq_ok_iff _).mp wellFormed.valid
  cases typEq : frame.header.typ with
  | goAway => exact absurd typEq typ
  | invalid _ => rw [typEq] at valid; exact valid.elim
  | data => rw [typEq] at valid; exact valid
  | rst => rw [typEq] at valid; exact valid.1
  | wndInc => rw [typEq] at valid; exact valid.1

theorem append_singleton_split {Entry : Type*} {front before after : List Entry}
    {last entry : Entry} (split : front ++ [last] = before ++ entry :: after) :
    after = [] ∧ front = before ∧ last = entry ∨
      ∃ rest, after = rest ++ [last] ∧ front = before ++ entry :: rest := by
  rcases List.eq_nil_or_concat after with rfl | ⟨rest, final, rfl⟩
  · left
    obtain ⟨same, tail⟩ := List.append_inj' split rfl
    exact ⟨rfl, same, List.cons.inj tail |>.1⟩
  · right
    have moved : front ++ [last] = (before ++ entry :: rest) ++ [final] := by
      simpa using split
    obtain ⟨same, tail⟩ := List.append_inj' moved rfl
    obtain rfl := (List.cons.inj tail).1
    exact ⟨rest, List.concat_eq_append, same⟩

namespace Session

/-- The streams and the system frames of a session name streams, and a yielded GOAWAY
is its last frame. -/
structure Wired (session : Session) : Prop where
  created : ∀ key < session.hub.nextKey, (session.hub.ends key).id.val ≠ 0
  queued : ∀ frame ∈ session.hub.manager.sysRx,
    ∃ system : SystemFrame, system.Sendable ∧ frame = system.toFrame
  replying : ∀ system, session.reader = .sysSending system → system.Sendable
  yielded : ∀ frame, (none, frame) ∈ session.hub.emitted →
    ∃ system : SystemFrame, system.Sendable ∧ frame = system.toFrame
  goAwayLast : ∀ before frame after, session.hub.emitted = before ++ (none, frame) :: after →
    frame.header.typ = .goAway → after = [] ∧ session.writer ≠ .running

/-- The system channel keeps to sendable frames, as long as the replies of the read task are. -/
theorem Queues.sendable {session session' : Session} (queues : session.Queues session')
    (replying : ∀ system, session.reader = .sysSending system → system.Sendable)
    (queued : ∀ frame ∈ session.hub.manager.sysRx,
      ∃ system : SystemFrame, system.Sendable ∧ frame = system.toFrame) :
    ∀ frame ∈ session'.hub.manager.sysRx,
      ∃ system : SystemFrame, system.Sendable ∧ frame = system.toFrame := by
  intro frame member
  cases queues with
  | same sysRx => exact queued frame (sysRx ▸ member)
  | replies system reader sysRx =>
      rw [sysRx] at member
      obtain old | new := List.mem_append.1 member
      · exact queued frame old
      · exact ⟨system, replying system reader, List.mem_singleton.1 new⟩
  | closes lastStreamId error message sysRx =>
      rw [sysRx] at member
      obtain old | new := List.mem_append.1 member
      · exact queued frame old
      · exact ⟨.goaway lastStreamId error message, trivial, List.mem_singleton.1 new⟩
  | takes head rest before _ _ sysRx =>
      rw [sysRx] at member
      exact queued frame (before ▸ List.mem_cons_of_mem head member)

theorem chosenId_none_ne_zero (hub : Hub) : (hub.chosenId none).val ≠ 0 := by
  have val : (hub.chosenId none).val = min (hub.manager.lastLocalId.val + 2) streamIdMax :=
    Constrained.clamp_val _
  simp only [val, streamIdMax]
  omega

theorem Changes_id {actor : StreamEnd.Actor} {before after : StreamEnd}
    (changes : StreamEnd.Changes actor before after) : after.id = before.id := by
  cases actor with
  | application => exact changes.application_keeps.1
  | manager => exact changes.manager_keeps.1

namespace Wired

variable {session : Session}

theorem new (window acceptQueueSize streamLimit : Nat) (client : Bool) :
    (Session.new window acceptQueueSize streamLimit client).Wired where
  created := fun key existing => absurd existing (Nat.not_lt_zero key)
  queued := by simp [Session.new, Hub.new]
  replying := by simp [Session.new]
  yielded := by simp [Session.new, Hub.new]
  goAwayLast := by simp [Session.new, Hub.new]

/-- A step keeps a session wired if the frame in its hand names a stream. -/
theorem step (wired : session.Wired) (lawful : session.Lawful)
    (hand : ∀ frame, session.reader.hand = some frame → session.reader.follows = true →
      frame.header.streamId.val ≠ 0) (op : SessionOp) : (session.step op).Wired := by
  have spec := session.step_spec lawful.sending op
  generalize session.step op = session' at spec
  constructor
  case created =>
    have createdStep {id : Option StreamID} {needsSyn : Bool} {newId : StreamID}
        {newKey : StreamKey}
        (opened : session.hub.createStream id session.window needsSyn = .ok (newId, newKey, session'.hub))
        (nonzero : (session.hub.chosenId id).val ≠ 0) :
        ∀ key < session'.hub.nextKey, (session'.hub.ends key).id.val ≠ 0 := by
      obtain ⟨-, rfl, nextKey, rfl, ends, -⟩ := Hub.createStream_eq_ok opened
      intro key existing
      rw [nextKey] at existing
      rw [ends]
      by_cases own : key = session.hub.nextKey
      · subst own
        rw [Function.update_self]
        exact nonzero
      · rw [Function.update_of_ne own, (session.hub.removeStream_keeps _ key).1]
        exact wired.created key (Nat.lt_of_le_of_ne (Nat.lt_succ_iff.mp existing) own)
    cases spec.opens lawful.addressed with
    | evolves evolves _ =>
        intro key existing
        rw [evolves.nextKey] at existing
        obtain ⟨actor, changes⟩ := evolves.ends key existing
        rw [Changes_id changes]
        exact wired.created key existing
    | accepts frame reader newId key opened _ _ _ =>
        exact createdStep opened (hand frame (by rw [reader]; rfl) (by rw [reader]; rfl))
    | serves _ _ newId key opened _ _ _ =>
        exact createdStep opened (chosenId_none_ne_zero session.hub)
  case queued => exact spec.queues.sendable wired.replying wired.queued
  case replying =>
    intro system replying
    rcases spec.replying replying with same | ⟨frame, inHand, routed, own⟩
    · exact wired.replying system same
    · cases system with
      | goaway _ _ _ => trivial
      | rst id error =>
          have follows : session.reader.follows = true := by
            refine Reader.follows_of_reads (Reader.reads_of_hand inHand) fun other is => ?_
            rcases routed with sends | typ
            · rw [is] at sends
              cases sends
            · rw [is] at inHand
              exact Option.some.inj inHand ▸ typ
          rw [SystemFrame.Sendable, own id error rfl]
          exact hand frame inHand follows
  case yielded =>
    intro frame member
    cases spec.writes with
    | nothing emitted _ _ => exact wired.yielded frame (emitted ▸ member)
    | frame new _ yields _ _ _ _ =>
        cases yields with
        | stream key _ _ _ _ _ _ emitted _ _ =>
            rw [emitted] at member
            rcases List.mem_append.mp member with old | new
            · exact wired.yielded frame old
            · cases List.mem_singleton.mp new
        | system head rest queued before own emitted _ =>
            rw [emitted] at member
            rcases List.mem_append.mp member with old | last
            · exact wired.yielded frame old
            · obtain ⟨-, rfl⟩ := Prod.mk.inj (List.mem_singleton.mp last)
              obtain ⟨system, sendable, rfl⟩ := wired.queued head (by rw [queued]; exact List.mem_cons_self)
              obtain ⟨system', sendable', same⟩ := sendable.nextSystemFrame before
              exact ⟨system', sendable', own.trans same⟩
  case goAwayLast =>
    intro before frame after split goAway
    cases spec.writes with
    | nothing emitted _ writer =>
        obtain ⟨last, stopped⟩ := wired.goAwayLast before frame after (emitted ▸ split) goAway
        exact ⟨last, fun running => stopped (writer running)⟩
    | frame new running yields taken tx whole _ =>
        obtain ⟨origin, emitted⟩ : ∃ origin, session'.hub.emitted =
            session.hub.emitted ++ [(origin, new)] := by
          cases yields with
          | system _ _ _ _ _ emitted _ => exact ⟨none, emitted⟩
          | stream key _ _ _ _ _ _ emitted _ _ => exact ⟨some key, emitted⟩
        rw [emitted] at split
        rcases append_singleton_split split with ⟨last, -, same⟩ | ⟨rest, -, earlier⟩
        · obtain ⟨-, rfl⟩ := Prod.mk.inj same
          exact ⟨last, fun runs => (whole runs).2.2 goAway⟩
        · exact absurd running (wired.goAwayLast before frame rest earlier goAway).2

end Wired

/-- The bytes that yielded frames are written as. A frame with an invalid header is not
written. -/
def wireBytes (entries : List (Option StreamKey × Frame)) : List UInt8 :=
  entries.flatMap fun entry =>
    match validateHeader entry.2.header with
    | .ok _ => encodeBytes entry.2
    | .error _ => []

@[simp] theorem wireBytes_nil : wireBytes [] = [] := rfl

@[simp]
theorem wireBytes_append (first second : List (Option StreamKey × Frame)) :
    wireBytes (first ++ second) = wireBytes first ++ wireBytes second := by
  simp [wireBytes]

theorem wireBytes_cons_valid {entry : Option StreamKey × Frame}
    (valid : validateHeader entry.2.header = .ok ()) (rest : List (Option StreamKey × Frame)) :
    wireBytes (entry :: rest) = encodeBytes entry.2 ++ wireBytes rest := by
  simp [wireBytes, valid]

theorem wireBytes_cons_invalid {entry : Option StreamKey × Frame} {error : InvalidHeader}
    (invalid : validateHeader entry.2.header = .error error)
    (rest : List (Option StreamKey × Frame)) : wireBytes (entry :: rest) = wireBytes rest := by
  simp [wireBytes, invalid]

/-- A yielded frame comes through the codec, or it is a GOAWAY and the last one. -/
theorem Wired.entry {session : Session} (wired : session.Wired) (lawful : session.Lawful)
    {before after : List (Option StreamKey × Frame)} {origin : Option StreamKey} {frame : Frame}
    (split : session.hub.emitted = before ++ (origin, frame) :: after) :
    frame.WellFormed ∧ frame.header.typ ≠ .goAway ∨
      origin = none ∧ frame.header.typ = .goAway ∧ frame.isSyn = false ∧ after = [] := by
  have member : (origin, frame) ∈ session.hub.emitted := by simp [split]
  cases origin with
  | some key =>
      left
      obtain ⟨existing, own⟩ := lawful.addressed.emitted key frame member
      have inSent : frame ∈ (session.hub.ends key).sent := by
        rw [lawful.addressed.sent key]
        exact Hub.mem_framesOf.mpr member
      refine ((lawful.writeHistory key).shape frame (List.mem_append_left _ inSent)).wellFormed ?_
      rw [own]
      exact wired.created key existing
  | none =>
      obtain ⟨system, sendable, rfl⟩ := wired.yielded frame member
      by_cases goAway : system.toFrame.header.typ = .goAway
      · exact Or.inr ⟨rfl, goAway, system.isSyn_toFrame,
          (wired.goAwayLast before _ after split goAway).1⟩
      · exact Or.inl ⟨sendable.wellFormed goAway, goAway⟩

/-- What a session has received from a peer that runs the same code. -/
structure Link (peer session : Session) : Prop where
  handled : session.handled =
    (peer.hub.emitted.take session.handled.length).map Prod.snd
  hand : session.reader.follows = true → ∀ frame, session.reader.hand = some frame →
    frame.header.typ ≠ .goAway ∧
      ∃ origin, peer.hub.emitted[session.handled.length]? = some (origin, frame)
  bytes : session.reader.follows = true → session.codec.HoldsValid ∧ ∃ lost,
    session.codec.heldBytes ++ session.rx ++ (peer.tx ++ lost) =
        wireBytes (peer.hub.emitted.drop
          (session.handled.length + session.reader.hand.toList.length)) ∧
      (peer.writer = .running → lost = [])
  goAway : (∃ frame, session.reader = .routing frame ∧ frame.header.typ = .goAway) ∨
      (∃ error, session.reader = .goingAway error) →
    ∃ frame, (none, frame) ∈ peer.hub.emitted

namespace Link

variable {peer session : Session}

theorem handled_le (link : Link peer session) :
    session.handled.length ≤ peer.hub.emitted.length := by
  have length := congrArg List.length link.handled
  simp only [List.length_map, List.length_take] at length
  omega

/-- What the decoder makes of the bytes that have arrived. -/
inductive Decodes (peer session : Session) (codec : FrameCodec) (rx : List UInt8) :
    Option Frame → Prop where
  | waits (holds : codec.HoldsValid)
      (bytes : codec.heldBytes ++ rx = session.codec.heldBytes ++ session.rx) :
      Decodes peer session codec rx none
  | goAway (frame : Frame) (typ : frame.header.typ = .goAway) (notSyn : frame.isSyn = false)
      (sent : ∃ frame, (none, frame) ∈ peer.hub.emitted) :
      Decodes peer session codec rx (some frame)
  | takes (frame : Frame) (typ : frame.header.typ ≠ .goAway) (codec_eq : codec = FrameCodec.default)
      (origin : Option StreamKey)
      (at_ : peer.hub.emitted[session.handled.length]? = some (origin, frame))
      (lost : List UInt8)
      (bytes : rx ++ (peer.tx ++ lost) =
        wireBytes (peer.hub.emitted.drop (session.handled.length + 1)))
      (running : peer.writer = .running → lost = []) : Decodes peer session codec rx (some frame)

theorem decode_nil {codec codec' : FrameCodec} {buffer rx : List UInt8} {item : Option Frame}
    (empty : codec.heldBytes ++ buffer = [])
    (decoded : codec.decode buffer = .ok (item, codec', rx)) :
    item = none ∧ codec' = codec ∧ rx = buffer := by
  obtain ⟨noHeader, rfl⟩ := List.append_eq_nil_iff.mp empty
  cases held : codec.inputHeader with
  | some header =>
      have length := congrArg List.length noHeader
      simp [FrameCodec.heldBytes, held] at length
  | none => simpa [FrameCodec.decode, held, eq_comm] using decoded

theorem decode (link : Link peer session) (wired : peer.Wired) (lawful : peer.Lawful)
    (idle : session.reader = .idle) {item : Option Frame} {codec : FrameCodec} {rx : List UInt8}
    (decoded : session.codec.decode session.rx = .ok (item, codec, rx)) :
    Decodes peer session codec rx item := by
  obtain ⟨holds, lost, bytes, running⟩ := link.bytes (by rw [idle]; rfl)
  simp only [idle, Reader.hand, Option.toList_none, List.length_nil, Nat.add_zero] at bytes
  -- nothing is on the way, or nothing that was written
  have of_nil (nothing : wireBytes (peer.hub.emitted.drop session.handled.length) = []) :
      Decodes peer session codec rx item := by
    rw [nothing] at bytes
    obtain ⟨rfl, rfl, rfl⟩ := decode_nil (List.append_eq_nil_iff.mp bytes).1 decoded
    exact .waits holds rfl
  cases ahead : peer.hub.emitted.drop session.handled.length with
  | nil => exact of_nil (by rw [ahead]; rfl)
  | cons entry rest =>
      obtain ⟨origin, frame⟩ := entry
      have split : peer.hub.emitted =
          peer.hub.emitted.take session.handled.length ++ (origin, frame) :: rest := by
        rw [← ahead, List.take_append_drop]
      have at_ : peer.hub.emitted[session.handled.length]? = some (origin, frame) := by
        rw [← List.head?_drop, ahead, List.head?_cons]
      have behind : peer.hub.emitted.drop (session.handled.length + 1) = rest := by
        rw [← List.tail_drop, ahead, List.tail_cons]
      rcases wired.entry lawful split with ⟨wellFormed, typ⟩ | ⟨rfl, typ, notSyn, rfl⟩
      · rw [ahead, wireBytes_cons_valid wellFormed.valid] at bytes
        cases decode_front holds wellFormed bytes with
        | waits codec' rx' waits held holds' =>
            obtain ⟨rfl, rfl, rfl⟩ : item = none ∧ codec = codec' ∧ rx = rx' := by
              simpa using Except.ok.inj (decoded.symm.trans waits)
            exact .waits holds' held
        | takes rx' takes left =>
            obtain ⟨rfl, rfl, rfl⟩ : item = some frame ∧ codec = FrameCodec.default ∧ rx = rx' := by
              simpa using Except.ok.inj (decoded.symm.trans takes)
            exact .takes frame typ rfl origin at_ lost (by rw [behind]; exact left) running
      · have sent : ∃ frame, (none, frame) ∈ peer.hub.emitted := ⟨frame, by rw [split]; simp⟩
        cases valid : validateHeader frame.header with
        | error error => exact of_nil (by rw [ahead, wireBytes_cons_invalid valid]; rfl)
        | ok _ =>
            rw [ahead, wireBytes_cons_valid valid, encodeBytes,
              List.append_assoc (encodeHeader frame.header)] at bytes
            rcases decode_valid_header holds valid bytes with
              ⟨codec', rx', waits, held, holds'⟩ | ⟨taken, codec', rx', takes, header⟩
            · obtain ⟨rfl, rfl, rfl⟩ : item = none ∧ codec = codec' ∧ rx = rx' := by
                simpa using Except.ok.inj (decoded.symm.trans waits)
              exact .waits holds' held
            · obtain ⟨rfl, -, -⟩ : item = some taken ∧ codec = codec' ∧ rx = rx' := by
                simpa using Except.ok.inj (decoded.symm.trans takes)
              refine .goAway taken (header ▸ typ) ?_ sent
              rw [Frame.isSyn, header]
              exact notSyn

/-- The read task goes on with the frames it has. -/
theorem moves (link : Link peer session) {session' : Session}
    (handled : session'.handled = session.handled) (codec : session'.codec = session.codec)
    (rx : session'.rx = session.rx)
    (follows : session'.reader.follows = true →
      session.reader.follows = true ∧ session'.reader.hand = session.reader.hand)
    (goAway : (∃ frame, session'.reader = .routing frame ∧ frame.header.typ = .goAway) ∨
        (∃ error, session'.reader = .goingAway error) →
      (∃ frame, session.reader = .routing frame ∧ frame.header.typ = .goAway) ∨
        (∃ error, session.reader = .goingAway error)) : Link peer session' where
  handled := by rw [handled]; exact link.handled
  hand := by
    intro follows' frame hand
    rw [handled]
    exact link.hand (follows follows').1 frame ((follows follows').2 ▸ hand)
  bytes := by
    intro follows'
    rw [codec, rx, handled, (follows follows').2]
    exact link.bytes (follows follows').1
  goAway := fun goes => link.goAway (goAway goes)

theorem goesOn (link : Link peer session) {session' : Session}
    (handled : session'.handled = session.handled) (codec : session'.codec = session.codec)
    (rx : session'.rx = session.rx)
    (follows : session'.reader.follows = true →
      session.reader.follows = true ∧ session'.reader.hand = session.reader.hand)
    (routing : ∀ frame, session'.reader = .routing frame → frame.header.typ ≠ .goAway)
    (stays : ∀ error, session'.reader ≠ .goingAway error) : Link peer session' := by
  refine link.moves handled codec rx follows ?_
  rintro (⟨frame, is, goAway⟩ | ⟨error, is⟩)
  · exact absurd goAway (routing frame is)
  · exact absurd is (stays error)

/-- The read task takes the next frame, which is one that the peer has yielded, unless it is
a GOAWAY. -/
theorem takes (link : Link peer session) (wired : peer.Wired) (lawful : peer.Lawful)
    (idle : session.reader = .idle) {frame : Frame} {codec : FrameCodec} {rx : List UInt8}
    (decoded : session.codec.decode session.rx = .ok (some frame, codec, rx)) :
    Link peer { session with
      codec := codec
      rx := rx
      reader := if frame.isSyn then .opening frame else .routing frame } := by
  cases link.decode wired lawful idle decoded with
  | goAway _ typ notSyn sent =>
      have routing : (if frame.isSyn then Reader.opening frame else .routing frame) =
          .routing frame := by simp [notSyn]
      simp only [routing]
      have halts : (Reader.routing frame).follows = false := by simp [Reader.follows, typ]
      refine { link with
        hand := fun follows => ?_
        bytes := fun follows => ?_
        goAway := fun _ => sent }
      · rw [halts] at follows
        cases follows
      · rw [halts] at follows
        cases follows
  | takes _ typ codec_eq origin at_ lost bytes running =>
      have hand : (if frame.isSyn then Reader.opening frame else .routing frame).hand =
          some frame := by split <;> rfl
      refine { link with
        hand := fun _ other is => ?_
        bytes := fun _ => ⟨?_, lost, ?_, running⟩
        goAway := ?_ }
      · obtain rfl := Option.some.inj (hand.symm.trans is)
        exact ⟨typ, origin, at_⟩
      · rw [codec_eq]
        rintro _ ⟨⟩
      · simp only [codec_eq, hand]
        exact bytes
      · rintro (⟨other, is, goAway⟩ | ⟨error, is⟩)
        · simp only at is
          rw [is] at hand
          obtain rfl := Option.some.inj hand
          exact absurd goAway typ
        · simp only at is
          rw [is] at hand
          cases hand

/-- The read task is done with the frame in its hand. -/
theorem settles (link : Link peer session) {session' : Session} {frame : Frame}
    (hand : session.reader.hand = some frame) (follows : session.reader.follows = true)
    (handled : session'.handled = session.handled ++ [frame])
    (codec : session'.codec = session.codec) (rx : session'.rx = session.rx)
    (noHand : session'.reader.hand = none)
    (stays : ∀ error, session'.reader ≠ .goingAway error) : Link peer session' where
  handled := by
    obtain ⟨-, origin, at_⟩ := link.hand follows frame hand
    rw [handled, List.length_append, List.length_singleton, List.take_add_one, at_,
      List.map_append, ← link.handled]
    rfl
  hand := by
    intro _ frame' hand'
    rw [noHand] at hand'
    cases hand'
  bytes := by
    intro _
    have bytes := link.bytes follows
    rw [hand] at bytes
    rw [codec, rx, handled, noHand, List.length_append]
    exact bytes
  goAway := by
    rintro (⟨frame', reader, -⟩ | ⟨error, reader⟩)
    · rw [reader] at noHand
      cases noHand
    · exact absurd reader (stays error)

theorem receive (link : Link peer session) (wired : peer.Wired) (peerLawful : peer.Lawful)
    (lawful : session.Lawful) {op : SessionOp} (notRecv : ∀ bytes, op ≠ .recv bytes) :
    Link peer (session.step op) := by
  have spec := session.step_spec lawful.sending op
  generalize session.step op = session' at spec
  have same {session' : Session} (reader : session'.reader = session.reader)
      (handled : session'.handled = session.handled) (codec : session'.codec = session.codec)
      (rx : session'.rx = session.rx) : Link peer session' :=
    link.moves handled codec rx (fun follows => ⟨reader ▸ follows, by rw [reader]⟩)
      (fun goes => by rwa [reader] at goes)
  cases spec with
  | recv bytes => exact absurd rfl (notRecv bytes)
  | waits idle codec rx decoded =>
      cases link.decode wired peerLawful idle decoded with
      | waits holds held =>
          refine { link with bytes := fun follows => ⟨holds, ?_⟩ }
          obtain ⟨-, lost, bytes, running⟩ := link.bytes follows
          exact ⟨lost, by simpa only [held] using bytes, running⟩
  | takes idle frame codec rx decoded => exact link.takes wired peerLawful idle decoded
  | accepts frame reader newId key hub created =>
      exact link.goesOn rfl rfl rfl (fun _ => by rw [reader]; exact ⟨rfl, rfl⟩)
        (fun _ is => by cases is) fun _ is => by cases is
  | advances session' frame hand hand' unrouted _ _ _ _ _ rest =>
      have follows : session.reader.follows = true :=
        Reader.follows_of_reads (Reader.reads_of_hand hand) fun other is => absurd is (unrouted other)
      refine link.goesOn rest.handled rest.codec rest.rx
        (fun _ => ⟨follows, hand'.trans hand.symm⟩) (fun other is => ?_) fun error is => ?_
      · rw [is] at hand'
        obtain rfl := Option.some.inj hand'
        exact (link.hand follows _ hand).1
      · rw [is] at hand'
        cases hand'
  | routes frame reader typ free routable =>
      refine link.goesOn rfl rfl rfl (fun _ => ?_) (fun _ is => by cases is) fun _ is => by cases is
      rw [reader]
      exact ⟨by simpa [Reader.follows] using typ, rfl⟩
  | pends frame reader sending current own hub polled => exact same rfl rfl rfl rfl
  | delivers frame reader sending current own hub polled =>
      refine link.settles (by rw [reader]; rfl) (by rw [reader]; rfl) rfl rfl rfl ?_ ?_
      · simp only
        split <;> rfl
      · intro error
        simp only
        split <;> simp
  | refuses frame reader sending current own error hub polled =>
      exact link.settles (by rw [reader]; rfl) (by rw [reader]; rfl) rfl rfl rfl rfl (by simp [answer])
  | answers frame reader reply typ _ _ =>
      refine link.settles (by rw [reader]; rfl) ?_ rfl rfl rfl rfl (by simp [answer])
      rw [reader]
      simpa [Reader.follows] using typ
  | closes streamId reader =>
      exact link.goesOn rfl rfl rfl (fun _ => by rw [reader]; exact ⟨rfl, rfl⟩)
        (fun _ is => by cases is) fun _ is => by cases is
  | replies frame reader =>
      exact link.goesOn rfl rfl rfl (fun _ => by rw [reader]; exact ⟨rfl, rfl⟩)
        (fun _ is => by cases is) fun _ is => by cases is
  | closeSends _ _ => exact same rfl rfl rfl rfl
  | leaves _ session' left running noReply goes hub rest =>
      refine link.moves rest.handled rest.codec rest.rx (fun follows => ?_) ?_
      · rw [Reader.reads_of_follows follows] at left
        cases left
      · rintro (⟨other, is, -⟩ | ⟨error, is⟩)
        · rw [is] at left
          cases left
        · exact Or.inl (goes error is)
  | ends _ session' ended _ hub rest =>
      have left := Reader.reads_of_ended ended
      refine link.moves rest.handled rest.codec rest.rx (fun follows => ?_) ?_
      · rw [Reader.reads_of_follows follows] at left
        cases left
      · rintro (⟨other, is, -⟩ | ⟨error, is⟩) <;> rw [is] at ended <;> cases ended
  | polls _ _ _ _ _ _ _ reader rest => exact same reader rest.handled rest.codec rest.rx
  | emits _ _ _ _ _ _ _ _ _ _ _ => exact same rfl rfl rfl rfl
  | serves _ _ _ _ _ _ => exact same rfl rfl rfl rfl
  | outside _ _ reader _ rest => exact same reader rest.handled rest.codec rest.rx

/-- The peer yields further frames behind those already handled. -/
theorem send (link : Link peer session) (lawful : peer.Lawful) (op : SessionOp) :
    Link (peer.step op) session := by
  have spec := peer.step_spec lawful.sending op
  generalize peer.step op = peer' at spec
  cases spec.writes with
  | nothing emitted tx writer =>
      refine ⟨?_, ?_, fun follows => ?_, ?_⟩
      · rw [emitted]
        exact link.handled
      · rw [emitted]
        exact link.hand
      · obtain ⟨holds, lost, bytes, running⟩ := link.bytes follows
        rw [emitted, tx]
        exact ⟨holds, lost, bytes, fun runs => running (writer runs)⟩
      · rw [emitted]
        exact link.goAway
  | frame frame running yields taken tx whole valid =>
      obtain ⟨origin, emitted⟩ : ∃ origin, peer'.hub.emitted =
          peer.hub.emitted ++ [(origin, frame)] := by
        cases yields with
        | system _ _ _ _ _ emitted _ => exact ⟨none, emitted⟩
        | stream key _ _ _ _ _ _ emitted _ _ => exact ⟨some key, emitted⟩
      refine ⟨?_, fun follows other hand => ?_, fun follows => ?_, fun goes => ?_⟩
      · rw [emitted, List.take_append_of_le_length link.handled_le]
        exact link.handled
      · obtain ⟨typ, origin', at_⟩ := link.hand follows other hand
        refine ⟨typ, origin', ?_⟩
        rw [emitted, List.getElem?_append_left (List.getElem?_eq_some_iff.mp at_).1]
        exact at_
      · obtain ⟨holds, lost, bytes, nothingLost⟩ := link.bytes follows
        have within : session.handled.length + session.reader.hand.toList.length ≤
            peer.hub.emitted.length := by
          cases hand : session.reader.hand with
          | none => simpa using link.handled_le
          | some other =>
              obtain ⟨-, origin', at_⟩ := link.hand follows other hand
              exact (List.getElem?_eq_some_iff.mp at_).1
        rw [nothingLost running, List.append_nil] at bytes
        rw [emitted, tx, List.drop_append_of_le_length within, wireBytes_append]
        cases outcome : validateHeader frame.header with
        | ok _ =>
            refine ⟨holds, (encodeBytes frame).drop taken, ?_, fun runs => ?_⟩
            · rw [wireBytes_cons_valid outcome, List.append_assoc peer.tx, List.take_append_drop,
                wireBytes_nil, List.append_nil, ← bytes]
              simp only [List.append_assoc]
            · exact List.drop_eq_nil_of_le (whole runs).1
        | error error =>
            have nothing : taken = 0 := by
              by_contra some
              rw [valid (Nat.pos_of_ne_zero some)] at outcome
              cases outcome
            refine ⟨holds, [], ?_, fun _ => rfl⟩
            rw [wireBytes_cons_invalid outcome, nothing, wireBytes_nil, ← bytes]
            simp
      · obtain ⟨other, member⟩ := link.goAway goes
        exact ⟨other, by rw [emitted]; exact List.mem_append_left _ member⟩

theorem transport (link : Link peer session) (count : Nat) :
    Link (peer.handOver count) (session.step (.recv (peer.tx.take count))) := by
  refine { link with bytes := fun follows => ?_ }
  obtain ⟨holds, lost, bytes, running⟩ := link.bytes follows
  refine ⟨holds, lost, ?_, running⟩
  have moved : session.codec.heldBytes ++ (session.rx ++ peer.tx.take count) ++
      (peer.tx.drop count ++ lost) = session.codec.heldBytes ++ session.rx ++ (peer.tx ++ lost) := by
    simp only [List.append_assoc]
    rw [← List.append_assoc (peer.tx.take count), List.take_append_drop]
  exact moved.trans bytes

theorem new (first second : SessionBuilder) (client client' : Bool) :
    Link (Session.new first.window first.acceptQueueSize first.streamLimit client)
      (Session.new second.window second.acceptQueueSize second.streamLimit client') where
  handled := rfl
  hand := by
    intro _ frame hand
    cases hand
  bytes := fun _ => ⟨by rintro _ ⟨⟩, [], rfl, fun _ => rfl⟩
  goAway := by rintro (⟨frame, is, -⟩ | ⟨error, is⟩) <;> cases is

theorem hand_cons (link : Link peer session) {frame : Frame}
    (follows : session.reader.follows = true) (hand : session.reader.hand = some frame) :
    ∃ origin, peer.hub.emitted =
      peer.hub.emitted.take session.handled.length ++
        (origin, frame) :: peer.hub.emitted.drop (session.handled.length + 1) := by
  obtain ⟨-, origin, at_⟩ := link.hand follows frame hand
  obtain ⟨within, entry⟩ := List.getElem?_eq_some_iff.mp at_
  refine ⟨origin, ?_⟩
  rw [← entry, ← List.drop_eq_getElem_cons within, List.take_append_drop]

theorem hand_wellFormed (link : Link peer session) (wired : peer.Wired) (lawful : peer.Lawful)
    {frame : Frame} (follows : session.reader.follows = true)
    (hand : session.reader.hand = some frame) : frame.WellFormed := by
  obtain ⟨origin, split⟩ := link.hand_cons follows hand
  rcases wired.entry lawful split with ⟨wellFormed, -⟩ | ⟨-, goAway, -⟩
  · exact wellFormed
  · exact absurd goAway (link.hand follows frame hand).1

end Link

/-- Two sessions that are linked in both directions. -/
structure Linked (peer session : Session) : Prop where
  peerLawful : peer.Lawful
  lawful : session.Lawful
  peerWired : peer.Wired
  wired : session.Wired
  forth : Link peer session
  back : Link session peer

namespace Linked

variable {peer session : Session}

theorem symm (linked : Linked peer session) : Linked session peer :=
  ⟨linked.lawful, linked.peerLawful, linked.wired, linked.peerWired, linked.back, linked.forth⟩

theorem act (linked : Linked peer session) {op : SessionOp}
    (notRecv : ∀ bytes, op ≠ .recv bytes) : Linked peer (session.step op) where
  peerLawful := linked.peerLawful
  lawful := linked.lawful.step op
  peerWired := linked.peerWired
  wired := by
    refine linked.wired.step linked.lawful (fun frame hand follows => ?_) op
    have wellFormed := linked.forth.hand_wellFormed linked.peerWired linked.peerLawful follows hand
    exact wellFormed.streamId_ne_zero (linked.forth.hand follows frame hand).1
  forth := linked.forth.receive linked.peerWired linked.peerLawful linked.lawful notRecv
  back := linked.back.send linked.lawful op

theorem transport (linked : Linked peer session) (count : Nat) :
    Linked (peer.handOver count) (session.step (.recv (peer.tx.take count))) where
  peerLawful := ⟨linked.peerLawful.sending, linked.peerLawful.hub⟩
  lawful := linked.lawful.step _
  peerWired := { linked.peerWired with }
  wired := { linked.wired with }
  forth := linked.forth.transport count
  back := { linked.back with }

end Linked

end Session

theorem Connection.linked_of_reaches {admits : Connection → ConnectionOp → Prop}
    {builder : Side → SessionBuilder} {conn : Connection}
    (runs : Reaches Connection.step admits (Connection.new builder) conn) (side : Side) :
    Session.Linked (conn side.other) (conn side) := by
  refine pairs_invariant (fun _ _ => True) Session.Linked (fun _ _ _ => True)
    (fun _ => trivial) (fun _ _ => trivial) Session.Linked.symm ?_ ?_ ?_ runs side
  · intro side
    exact ⟨.new _ _ _ _, .new _ _ _ _, .new _ _ _ _, .new _ _ _ _,
      .new (builder side.other) (builder side) _ _, .new (builder side) (builder side.other) _ _⟩
  · intro peer session op notRecv _ _ _ linked
    exact linked.act notRecv
  · intro peer session count _ linked
    exact linked.transport count

end Muxado

end NgrokRust
