import NgrokRust.LabelledRuns
import NgrokRust.MuxadoCodec
import NgrokRust.PrefixSlicing

/-!
# Sequences of frames on the wire

What the codec makes of a whole byte stream.  Decoding in any pieces is the same as
slicing the bytes into headers and bodies, encoding a sequence of stream frames and
decoding it gives the sequence back, and whatever valid frame is decoded is encoded to
bytes that decode to it again.
-/

namespace NgrokRust

namespace Muxado

open LabelledRuns BigEndian

/-- Slice a header of eight bytes and the body it announces off the front, and apply
`decode_frame` to them. -/
def sliceFrame (bytes : List UInt8) : Option (Frame × List UInt8) :=
  if bytes.length < 8 then none
  else
    match decodeHeader (bytes.take 8) with
    | .error _ => none
    | .ok header =>
        if (bytes.drop 8).length < header.length.val then none
        else
          match decodeFrame header ((bytes.drop 8).take header.length.val) with
          | .error _ => none
          | .ok frame => some (frame, (bytes.drop 8).drop header.length.val)

def Frame.wireLength (frame : Frame) : Nat := 8 + frame.header.length.val

theorem sliceFrame_append {raw body rest : List UInt8} {header : Header} {frame : Frame}
    (rawLength : raw.length = 8) (headerDecoded : decodeHeader raw = .ok header)
    (bodyLength : body.length = header.length.val) (decoded : decodeFrame header body = .ok frame) :
    sliceFrame (raw ++ (body ++ rest)) = some (frame, rest) := by
  have taken : (raw ++ (body ++ rest)).take 8 = raw := by
    rw [← rawLength, List.take_left]
  have dropped : (raw ++ (body ++ rest)).drop 8 = body ++ rest := by
    rw [← rawLength, List.drop_left]
  have enough : ¬ (raw ++ (body ++ rest)).length < 8 := by
    rw [List.length_append]
    omega
  have whole : ¬ (body ++ rest).length < header.length.val := by
    rw [List.length_append]
    omega
  have bodyTaken : (body ++ rest).take header.length.val = body := by
    rw [← bodyLength, List.take_left]
  have bodyDropped : (body ++ rest).drop header.length.val = rest := by
    rw [← bodyLength, List.drop_left]
  simp only [sliceFrame, if_neg enough, taken, dropped, headerDecoded, if_neg whole, bodyTaken,
    bodyDropped, decoded]

/-- A slice is a header, the body it announces, and the frame they decode to. -/
theorem sliceFrame_eq_some_iff {bytes rest : List UInt8} {frame : Frame} :
    sliceFrame bytes = some (frame, rest) ↔
      ∃ header raw body, raw.length = 8 ∧ decodeHeader raw = .ok header ∧
        body.length = header.length.val ∧ decodeFrame header body = .ok frame ∧
        bytes = raw ++ (body ++ rest) := by
  constructor
  · intro sliced
    unfold sliceFrame at sliced
    by_cases short : bytes.length < 8
    · simp [short] at sliced
    · cases headerDecoded : decodeHeader (bytes.take 8) with
      | error panic => simp [short, headerDecoded] at sliced
      | ok header =>
          by_cases partialBody : (bytes.drop 8).length < header.length.val
          · simp only [if_neg short, headerDecoded, if_pos partialBody] at sliced
            cases sliced
          · cases decoded : decodeFrame header ((bytes.drop 8).take header.length.val) with
            | error panic =>
                simp only [if_neg short, headerDecoded, if_neg partialBody, decoded] at sliced
                cases sliced
            | ok whole =>
                simp only [if_neg short, headerDecoded, if_neg partialBody, decoded] at sliced
                obtain ⟨rfl, rfl⟩ := Prod.mk.inj (Option.some.inj sliced)
                refine ⟨header, bytes.take 8, (bytes.drop 8).take header.length.val, ?_,
                  headerDecoded, ?_, decoded, ?_⟩
                · rw [List.length_take]
                  omega
                · rw [List.length_take]
                  omega
                · rw [List.take_append_drop, List.take_append_drop]
  · rintro ⟨header, raw, body, rawLength, headerDecoded, bodyLength, decoded, rfl⟩
    exact sliceFrame_append rawLength headerDecoded bodyLength decoded

theorem sliceFrame_length {bytes rest : List UInt8} {frame : Frame}
    (sliced : sliceFrame bytes = some (frame, rest)) :
    bytes.length = frame.wireLength + rest.length := by
  obtain ⟨header, raw, body, rawLength, -, bodyLength, decoded, rfl⟩ :=
    sliceFrame_eq_some_iff.mp sliced
  have same := (headerType_of_decodeFrame decoded).1
  rw [Frame.wireLength, same, List.length_append, List.length_append]
  omega

def frameSlicer : Slicer UInt8 Frame where
  slice := sliceFrame
  shrinks := by
    intro bytes frame rest sliced
    have length := sliceFrame_length sliced
    rw [Frame.wireLength] at length
    omega
  stable := by
    intro bytes frame rest more sliced
    obtain ⟨header, raw, body, rawLength, headerDecoded, bodyLength, decoded, rfl⟩ :=
      sliceFrame_eq_some_iff.mp sliced
    rw [List.append_assoc, List.append_assoc]
    exact sliceFrame_append rawLength headerDecoded bodyLength decoded

theorem slices_length {bytes rest : List UInt8} {frames : List Frame}
    (slices : frameSlicer.Slices bytes frames rest) :
    bytes.length = (frames.map Frame.wireLength).sum + rest.length := by
  induction slices with
  | nil rest => simp
  | cons first _ ih =>
      have length := sliceFrame_length first
      simp only [List.map_cons, List.sum_cons]
      omega

namespace FrameCodec

def Parsed (codec : FrameCodec) (raw : List UInt8) : Prop :=
  match codec.inputHeader with
  | none => raw = []
  | some header => raw.length = 8 ∧ decodeHeader raw = .ok header

theorem decodeBody_parsed {raw : List UInt8} {header : Header} (rawLength : raw.length = 8)
    (headerDecoded : decodeHeader raw = .ok header) (buffer : List UInt8) :
    sliceFrame (raw ++ buffer) = none ∧ decodeBody header buffer = .ok (none, ⟨some header⟩, buffer) ∨
      ∃ frame rest, sliceFrame (raw ++ buffer) = some (frame, rest) ∧
        decodeBody header buffer = .ok (some frame, default, rest) := by
  by_cases partialBody : buffer.length < header.length.val
  · left
    refine ⟨?_, by rw [decodeBody, if_pos partialBody]⟩
    by_contra sliced
    obtain ⟨⟨frame, rest⟩, sliced⟩ := Option.ne_none_iff_exists'.mp sliced
    obtain ⟨header', raw', body, rawLength', headerDecoded', bodyLength, -, split⟩ :=
      sliceFrame_eq_some_iff.mp sliced
    obtain ⟨rfl, rfl⟩ := List.append_inj split (rawLength.trans rawLength'.symm)
    obtain rfl := Except.ok.inj (headerDecoded.symm.trans headerDecoded')
    rw [List.length_append] at partialBody
    omega
  · right
    have whole : (buffer.take header.length.val).length = header.length.val := by
      rw [List.length_take]
      omega
    obtain ⟨frame, decoded, -⟩ := exists_decodeFrame whole
    refine ⟨frame, buffer.drop header.length.val, ?_, ?_⟩
    · have sliced := @sliceFrame_append _ _ (buffer.drop header.length.val) _ _ rawLength headerDecoded whole
        decoded
      rwa [List.take_append_drop] at sliced
    · rw [decodeBody, if_neg partialBody, decoded]
      rfl

/-- One call of `decode` slices the next frame off the parsed header and the buffer, or
waits without losing a byte. -/
theorem decode_parsed {codec : FrameCodec} {raw : List UInt8} (parsed : codec.Parsed raw)
    (buffer : List UInt8) :
    (sliceFrame (raw ++ buffer) = none ∧ ∃ codec' raw' buffer',
        codec.decode buffer = .ok (none, codec', buffer') ∧ codec'.Parsed raw' ∧
          raw' ++ buffer' = raw ++ buffer) ∨
      ∃ frame rest, sliceFrame (raw ++ buffer) = some (frame, rest) ∧
        codec.decode buffer = .ok (some frame, default, rest) := by
  cases held : codec.inputHeader with
  | some header =>
      simp only [Parsed, held] at parsed
      obtain ⟨rawLength, headerDecoded⟩ := parsed
      have decodes : codec.decode buffer = decodeBody header buffer := by
        rw [decode, held]
      rcases decodeBody_parsed rawLength headerDecoded buffer with
        ⟨partial_, waits⟩ | ⟨frame, rest, sliced, takes⟩
      · exact Or.inl ⟨partial_, ⟨some header⟩, raw, buffer, decodes.trans waits,
          ⟨rawLength, headerDecoded⟩, rfl⟩
      · exact Or.inr ⟨frame, rest, sliced, decodes.trans takes⟩
  | none =>
      simp only [Parsed, held] at parsed
      subst parsed
      by_cases short : buffer.length < 8
      · left
        refine ⟨by simp [sliceFrame, short], codec, [], buffer, ?_, by simp [Parsed, held], rfl⟩
        simp only [decode, held, if_pos short]
      · have rawLength : (buffer.take 8).length = 8 := by
          rw [List.length_take]
          omega
        obtain ⟨header, headerDecoded⟩ := exists_decodeHeader (buffer.take 8) (by omega)
        have decodes : codec.decode buffer = decodeBody header (buffer.drop 8) := by
          simp only [decode, held, if_neg short, headerDecoded]
          rfl
        have split : buffer.take 8 ++ buffer.drop 8 = [] ++ buffer := List.take_append_drop 8 buffer
        rcases decodeBody_parsed rawLength headerDecoded (buffer.drop 8) with
          ⟨partial_, waits⟩ | ⟨frame, rest, sliced, takes⟩
        · rw [split] at partial_
          exact Or.inl ⟨partial_, ⟨some header⟩, buffer.take 8, buffer.drop 8,
            decodes.trans waits, ⟨rawLength, headerDecoded⟩, split⟩
        · rw [split] at sliced
          exact Or.inr ⟨frame, rest, sliced, decodes.trans takes⟩

end FrameCodec

/-- A decoder with its buffer, and what has gone into it and come out of it. -/
structure Decoding where
  codec : FrameCodec
  buffer : List UInt8
  received : List UInt8
  returned : List Frame
deriving DecidableEq, Repr

inductive DecodingOp where
  | append (chunk : List UInt8)
  | decode
deriving DecidableEq, Repr

namespace Decoding

def fresh : Decoding := ⟨FrameCodec.default, [], [], []⟩

/-- A call that fails would change nothing. -/
def step (decoding : Decoding) : DecodingOp → Decoding
  | .append chunk =>
      { decoding with
        buffer := decoding.buffer ++ chunk, received := decoding.received ++ chunk }
  | .decode =>
      match decoding.codec.decode decoding.buffer with
      | .ok (item, codec, buffer) =>
          { decoding with
            codec := codec, buffer := buffer, returned := decoding.returned ++ item.toList }
      | .error _ => decoding

theorem step_decode {decoding : Decoding} {item : Option Frame} {codec : FrameCodec}
    {buffer : List UInt8}
    (decoded : decoding.codec.decode decoding.buffer = .ok (item, codec, buffer)) :
    decoding.step .decode = ⟨codec, buffer, decoding.received, decoding.returned ++ item.toList⟩ := by
  simp only [step, decoded]

/-- The bytes that the decoder has taken or still has, beyond the returned frames. -/
def pending (decoding : Decoding) : Nat :=
  (if decoding.codec.inputHeader.isSome then 8 else 0) + decoding.buffer.length

def Sliced (decoding : Decoding) : Prop :=
  ∃ raw, decoding.codec.Parsed raw ∧
    frameSlicer.Slices decoding.received decoding.returned (raw ++ decoding.buffer)

theorem Sliced.step {decoding : Decoding} (sliced : decoding.Sliced) (op : DecodingOp) :
    (decoding.step op).Sliced := by
  obtain ⟨raw, parsed, slices⟩ := sliced
  cases op with
  | append chunk =>
      refine ⟨raw, parsed, ?_⟩
      have more := slices.append chunk
      rwa [List.append_assoc] at more
  | decode =>
      rcases FrameCodec.decode_parsed parsed decoding.buffer with
        ⟨-, codec, raw', buffer, waits, parsed', same⟩ | ⟨frame, rest, next, takes⟩
      · rw [step_decode waits, Option.toList_none, List.append_nil]
        exact ⟨raw', parsed', same ▸ slices⟩
      · rw [step_decode takes, Option.toList_some]
        exact ⟨[], rfl, slices.snoc next⟩

/-- What holds between any two calls: `decode` succeeds, the frames returned are the
first slices of the bytes received and all of them once it waits, and every frame has
used up exactly its header and the body that it announces. -/
structure InStep (decoding : Decoding) : Prop where
  decodes : ∃ item codec buffer,
    decoding.codec.decode decoding.buffer = .ok (item, codec, buffer) ∧
      (item = none → decoding.returned = (frameSlicer.sliceAll decoding.received).1)
  returned : decoding.returned <+: (frameSlicer.sliceAll decoding.received).1
  consumed : decoding.received.length =
    (decoding.returned.map Frame.wireLength).sum + decoding.pending

theorem Sliced.inStep {decoding : Decoding} (sliced : decoding.Sliced) : decoding.InStep := by
  obtain ⟨raw, parsed, slices⟩ := sliced
  have all := congrArg Prod.fst slices.sliceAll_eq
  refine ⟨?_, ⟨_, all.symm⟩, ?_⟩
  · rcases FrameCodec.decode_parsed parsed decoding.buffer with
      ⟨partial_, codec, raw', buffer, waits, -, -⟩ | ⟨frame, rest, next, takes⟩
    · refine ⟨none, codec, buffer, waits, fun _ => ?_⟩
      rw [all, Slicer.sliceAll_of_none partial_, List.append_nil]
    · exact ⟨some frame, _, rest, takes, fun is => by cases is⟩
  · have rawLength : raw.length = if decoding.codec.inputHeader.isSome then 8 else 0 := by
      unfold FrameCodec.Parsed at parsed
      cases held : decoding.codec.inputHeader with
      | none => simpa [held] using parsed
      | some header => simpa [held] using (by simpa [held] using parsed : _ ∧ _).1
    rw [slices_length slices, List.length_append, rawLength, pending]

/-- However the bytes are cut into chunks and however often `decode` is called between
them, it returns the frames of the whole byte string. -/
theorem inStep_run (ops : List DecodingOp) : (run step fresh ops).InStep := by
  have reaches := @reaches_run_anyLabel _ _ step fresh ops
  refine (reaches.invariant Sliced (fun _ op _ sliced => sliced.step op) ?_).inStep
  exact ⟨[], rfl, .nil []⟩

end Decoding

/-- The frames that `Frame::from` and `Frame::rst` build for streams, with any flags and
stream id. -/
inductive Frame.Built : Frame → Prop where
  | ofBody {body : Body} (stream : body.routable = true) : Built (Frame.ofBody body)
  | rst (streamId : StreamID) (error : Error) : Built (Frame.rst streamId error)
  | fin {frame : Frame} (built : Built frame) : Built frame.fin
  | syn {frame : Frame} (built : Built frame) : Built frame.syn
  | withStreamId {frame : Frame} (built : Built frame) (id : StreamID) :
      Built (frame.withStreamId id)

/-- Encode frames one after the other into one buffer. -/
def encodeAll (frames : List Frame) (buffer : List UInt8) : Except InvalidHeader (List UInt8) :=
  match frames with
  | [] => .ok buffer
  | frame :: frames => do
      let buffer ← encode frame buffer
      encodeAll frames buffer

/-- `Frame::from` stores no more data than a frame can announce. -/
theorem ofBody_data (bytes : List UInt8) :
    (Frame.ofBody (.data bytes)).body = .data (bytes.take lengthMax) := by
  simp only [Frame.ofBody, Body.clampLen, Body.data.injEq]
  rcases Nat.le_total lengthMax bytes.length with long | short
  · rw [Nat.min_eq_left long]
  · rw [Nat.min_eq_right short, List.take_of_length_le le_rfl, List.take_of_length_le short]

namespace Frame.Built

/-- A built frame has the type of its body and announces what is written for it. -/
theorem announces {frame : Frame} (built : frame.Built) :
    frame.header.typ = frame.body.headerType ∧ frame.body.routable = true ∧
      frame.header.length.val = (encodeBody frame.body).length := by
  induction built with
  | @ofBody body stream =>
      cases body with
      | data bytes =>
          refine ⟨rfl, rfl, ?_⟩
          have fits : (bytes.take (min lengthMax bytes.length)).length ≤ lengthMax := by
            rw [List.length_take]
            omega
          have small : (bytes.take (min lengthMax bytes.length)).length < 2 ^ 32 := by
            simp only [lengthMax] at fits ⊢
            omega
          simp only [Frame.ofBody, Body.clampLen, Body.len, encodeBody, Constrained.clamp_val,
            asU32_of_lt small]
          exact Nat.min_eq_left fits
      | rst error => exact ⟨rfl, rfl, by simp [Frame.ofBody, Body.clampLen, Body.len, encodeBody, asU32, lengthMax]⟩
      | wndInc increment =>
          exact ⟨rfl, rfl, by simp [Frame.ofBody, Body.clampLen, Body.len, encodeBody, asU32, lengthMax]⟩
      | goAway _ _ _ => cases stream
      | invalid _ _ => cases stream
  | rst streamId error => exact ⟨rfl, rfl, by simp [Frame.rst, encodeBody, lengthMax]⟩
  | fin _ ih => exact ih
  | syn _ ih => exact ih
  | withStreamId _ _ ih => exact ih

theorem wellFormed {frame : Frame} (built : frame.Built)
    (nonzero : frame.header.streamId.val ≠ 0) : frame.WellFormed := by
  obtain ⟨typ, routable, length⟩ := built.announces
  refine ⟨(validateHeader_eq_ok_iff _).mpr ?_, typ, length⟩
  cases body : frame.body with
  | data bytes =>
      rw [typ, body]
      exact nonzero
  | rst error =>
      rw [body] at length
      rw [typ, body]
      exact ⟨nonzero, length.trans (putU32_length _)⟩
  | wndInc increment =>
      rw [body] at length
      rw [typ, body]
      exact ⟨nonzero, length.trans (putU32_length _)⟩
  | goAway _ _ _ => rw [body] at routable; cases routable
  | invalid _ _ => rw [body] at routable; cases routable

end Frame.Built

theorem encode_eq_ok {frame : Frame} (valid : validateHeader frame.header = .ok ())
    (buffer : List UInt8) : encode frame buffer = .ok (buffer ++ encodeBytes frame) := by
  rw [encode, valid]
  rfl

theorem encodeAll_eq_ok {frames : List Frame} (wellFormed : ∀ frame ∈ frames, frame.WellFormed)
    (buffer : List UInt8) :
    encodeAll frames buffer = .ok (buffer ++ frames.flatMap encodeBytes) := by
  induction frames generalizing buffer with
  | nil => simp [encodeAll]
  | cons frame frames ih =>
      have first := encode_eq_ok (wellFormed frame List.mem_cons_self).valid buffer
      rw [encodeAll, first, List.flatMap_cons, ← List.append_assoc]
      exact ih (fun other member => wellFormed other (List.mem_cons_of_mem _ member)) _

theorem decode_encodeBytes {frame : Frame} (wellFormed : frame.WellFormed) (rest : List UInt8) :
    FrameCodec.default.decode (encodeBytes frame ++ rest) =
      .ok (some frame, FrameCodec.default, rest) := by
  have sliced : sliceFrame (encodeBytes frame ++ rest) = some (frame, rest) := by
    rw [encodeBytes, List.append_assoc]
    exact sliceFrame_append (encodeHeader_length _) (decodeHeader_encodeHeader wellFormed.valid)
      wellFormed.length_eq.symm (decodeFrame_encodeBody wellFormed)
  rcases FrameCodec.decode_parsed (show FrameCodec.default.Parsed [] from rfl)
      (encodeBytes frame ++ rest) with ⟨partial_, -⟩ | ⟨frame', rest', sliced', takes⟩
  · rw [List.nil_append, sliced] at partial_
    cases partial_
  · rw [List.nil_append, sliced] at sliced'
    obtain ⟨rfl, rfl⟩ := Prod.mk.inj (Option.some.inj sliced')
    exact takes

/-- One call of `decode` for each frame empties the buffer. -/
theorem run_decode_encodeBytes {frames : List Frame}
    (wellFormed : ∀ frame ∈ frames, frame.WellFormed) (received : List UInt8)
    (returned : List Frame) :
    run Decoding.step ⟨FrameCodec.default, frames.flatMap encodeBytes, received, returned⟩
        (List.replicate frames.length .decode) =
      ⟨FrameCodec.default, [], received, returned ++ frames⟩ := by
  induction frames generalizing returned with
  | nil => simp
  | cons frame frames ih =>
      have takes := decode_encodeBytes (wellFormed frame List.mem_cons_self)
        (frames.flatMap encodeBytes)
      have first : Decoding.step ⟨FrameCodec.default, (frame :: frames).flatMap encodeBytes,
          received, returned⟩ .decode =
            ⟨FrameCodec.default, frames.flatMap encodeBytes, received, returned ++ [frame]⟩ := by
        rw [List.flatMap_cons]
        exact @Decoding.step_decode ⟨FrameCodec.default, encodeBytes frame ++
          frames.flatMap encodeBytes, received, returned⟩ _ _ _ takes
      rw [List.length_cons, List.replicate_succ, run_cons, first,
        ih fun other member => wellFormed other (List.mem_cons_of_mem _ member)]
      simp

/-- A sequence of built frames is encoded without an error, and decoding the bytes gives
exactly this sequence and leaves nothing behind. -/
theorem roundTrip {frames : List Frame}
    (built : ∀ frame ∈ frames, frame.Built ∧ frame.header.streamId.val ≠ 0) :
    ∃ bytes, encodeAll frames [] = .ok bytes ∧
      run Decoding.step Decoding.fresh (.append bytes :: List.replicate frames.length .decode) =
        ⟨FrameCodec.default, [], bytes, frames⟩ := by
  have wellFormed (frame : Frame) (member : frame ∈ frames) : frame.WellFormed :=
    (built frame member).1.wellFormed (built frame member).2
  refine ⟨frames.flatMap encodeBytes, encodeAll_eq_ok wellFormed [], ?_⟩
  exact run_decode_encodeBytes wellFormed (frames.flatMap encodeBytes) []

def threeFrames : List Frame :=
  [((Frame.ofBody (.data [104, 105])).syn.fin).withStreamId (Constrained.clamp 3),
    (Frame.ofBody (.wndInc (Constrained.clamp 7))).withStreamId (Constrained.clamp 3),
    (Frame.rst (Constrained.clamp 4) .streamRefused).syn]

theorem roundTrip_threeFrames :
    ∃ bytes, encodeAll threeFrames [] = .ok bytes ∧
      run Decoding.step Decoding.fresh (.append bytes :: List.replicate 3 .decode) =
        ⟨FrameCodec.default, [], bytes, threeFrames⟩ := by
  have built : ∀ frame ∈ threeFrames, frame.Built ∧ frame.header.streamId.val ≠ 0 := by
    intro frame member
    simp only [threeFrames, List.mem_cons, List.not_mem_nil, or_false] at member
    rcases member with rfl | rfl | rfl
    · exact ⟨.withStreamId (.fin (.syn (.ofBody rfl))) _, Nat.succ_ne_zero 2⟩
    · exact ⟨.withStreamId (.ofBody rfl) _, Nat.succ_ne_zero 2⟩
    · exact ⟨.syn (.rst _ _), Nat.succ_ne_zero 3⟩
  exact roundTrip built

/-- A decoded frame that is not invalid is well formed. -/
theorem wellFormed_of_decodeFrame {header : Header} {body : List UInt8} {frame : Frame}
    (whole : body.length = header.length.val) (decoded : decodeFrame header body = .ok frame)
    (valid : ∀ error bytes, frame.body ≠ .invalid error bytes) : frame.WellFormed := by
  obtain ⟨rfl, ⟨headerValid, typ⟩ | ⟨error, -, invalid⟩⟩ := headerType_of_decodeFrame decoded
  swap
  · exact absurd invalid (valid error body)
  refine ⟨headerValid, typ.symm, ?_⟩
  have demands := (validateHeader_eq_ok_iff _).mp headerValid
  unfold decodeFrame at decoded
  rw [headerValid] at decoded
  cases typEq : frame.header.typ with
  | data =>
      simp only [typEq, Except.ok.injEq] at decoded
      rw [← decoded]
      exact whole.symm
  | invalid value => simp [typEq] at demands
  | rst =>
      simp only [typEq] at decoded demands
      cases read : readU32 body <;> simp [read, bind, Except.bind, pure, Except.pure] at decoded
      rw [← decoded]
      exact demands.2
  | wndInc =>
      simp only [typEq] at decoded demands
      cases read : readU32 body <;> simp [read, bind, Except.bind, pure, Except.pure] at decoded
      rw [← decoded]
      exact demands.2
  | goAway =>
      simp only [typEq] at decoded demands
      obtain ⟨lastStreamId, behind, first⟩ := exists_getU32 body (by omega)
      have behindLength := getU32_length first
      obtain ⟨code, message, second⟩ := exists_getU32 behind (by omega)
      have messageLength := getU32_length second
      simp only [readU32, first, second, bind, Except.bind, pure, Except.pure,
        Except.ok.injEq] at decoded
      rw [← decoded]
      simp only [encodeBody, List.length_append, putU32_length]
      omega

/-- Whatever valid frame is decoded can be encoded; this writes as many bytes as the
frame occupied, and they decode to the same frame. -/
theorem decode_encode {bytes rest : List UInt8} {frame : Frame} {codec : FrameCodec}
    (decoded : FrameCodec.default.decode bytes = .ok (some frame, codec, rest))
    (valid : ∀ error body, frame.body ≠ .invalid error body) :
    ∃ written, encode frame [] = .ok written ∧ written.length + rest.length = bytes.length ∧
      ∀ further, FrameCodec.default.decode (written ++ further) =
        .ok (some frame, FrameCodec.default, further) := by
  have sliced : sliceFrame bytes = some (frame, rest) := by
    rcases FrameCodec.decode_parsed (show FrameCodec.default.Parsed [] from rfl) bytes with
      ⟨-, _, _, _, waits, -⟩ | ⟨frame', rest', sliced, takes⟩
    · rw [waits] at decoded
      cases decoded
    · obtain ⟨rfl, -, rfl⟩ : frame = frame' ∧ codec = FrameCodec.default ∧ rest = rest' := by
        simpa using Except.ok.inj (decoded.symm.trans takes)
      exact sliced
  have wellFormed : frame.WellFormed := by
    obtain ⟨header, raw, body, -, -, whole, frameDecoded, -⟩ := sliceFrame_eq_some_iff.mp sliced
    exact wellFormed_of_decodeFrame whole frameDecoded valid
  refine ⟨encodeBytes frame, encode_eq_ok wellFormed.valid [], ?_,
    decode_encodeBytes wellFormed⟩
  rw [sliceFrame_length sliced, encodeBytes, List.length_append, encodeHeader_length,
    ← wellFormed.length_eq, Frame.wireLength]

/-- A GOAWAY with unused flags, reserved bits and an unknown error code. -/
theorem decode_encode_goAway :
    ∃ frame rest,
      FrameCodec.default.decode [0, 0, 9, 0x3c, 0x80, 0, 0, 0, 0x80, 0, 0, 2, 1, 2, 3, 4, 33, 7] =
        .ok (some frame, FrameCodec.default, rest) ∧
      ∃ written, encode frame [] = .ok written ∧ written.length + rest.length = 18 ∧
        ∀ further, FrameCodec.default.decode (written ++ further) =
          .ok (some frame, FrameCodec.default, further) := by
  have decoded : FrameCodec.default.decode
      [0, 0, 9, 0x3c, 0x80, 0, 0, 0, 0x80, 0, 0, 2, 1, 2, 3, 4, 33, 7] =
        .ok (some ⟨⟨Constrained.clamp 9, .goAway, Flags.empty, Constrained.clamp 0⟩,
          .goAway (Constrained.clamp 2) .errorUnknown [33]⟩, FrameCodec.default, [7]) := by
    decide +kernel
  exact ⟨_, _, decoded, decode_encode decoded (by simp)⟩

end Muxado

end NgrokRust
