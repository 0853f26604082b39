import NgrokRust.AwaitedReads
import NgrokRust.BigEndianWords
import NgrokRust.MuxadoFrame

/-!
# The streams that the remote opens

`IncomingStreams::accept` stands on three layers.  `Typed` reads the four type bytes of
a stream, `Heartbeat` answers the streams of its own type, and `accept` itself reads the
request or the proxy header of the others.  Each of the loops is given by one pass, which
takes one stream.

`poll_read` of a muxado stream answers with bytes, with the end of the stream, or not at
all: it has no errors, and a reset of the stream is none.

Parsing JSON is a parameter.
-/

namespace NgrokRust

namespace Agent

/-- What the reader of a muxado stream sees of it. -/
abbrev StreamReads := Arrivals UInt8 Empty

/-- How the remote goes on behind what it sends on a stream: with a FIN, with an RST, with
another stream of the same id, or with nothing.  When an RST arrives, a window increment of
the stream may still wait to be sent. -/
inductive RemoteEnd where
  | fin
  | rst (increment : Bool)
  | reopened
  | nothing
deriving DecidableEq, Repr

structure RemoteStream where
  pieces : List (List UInt8)
  ending : RemoteEnd
deriving DecidableEq, Repr

namespace RemoteStream

def symbols (stream : RemoteStream) : List UInt8 := stream.pieces.flatten

/-- An RST closes the sink of the stream and leaves its reader waiting.  Only if the manager
then comes to an increment of the stream, for bytes that were read, it drops the handle of
the stream, and with it the sender that the reader waits for; so does a second SYN. -/
def reads (stream : RemoteStream) : StreamReads where
  pieces := stream.pieces
  ending :=
    match stream.ending with
    | .fin | .reopened => .eof
    | .rst increment => if increment ∧ stream.symbols ≠ [] then .eof else .silence
    | .nothing => .silence

end RemoteStream

def proxyReq : Nat := 3
def restartReq : Nat := 4
def stopReq : Nat := 5
def updateReq : Nat := 6
def stopTunnelReq : Nat := 9

def heartbeatType : Nat := 0xFFFFFFFF

/-- `TypedStream`, with what is left to read of the stream. -/
structure TypedStream where
  typ : Nat
  inner : StreamReads
deriving DecidableEq

structure StopTunnel where
  clientId : String
  message : String
  errorCode : Option String
deriving DecidableEq

inductive EdgeType where
  | undefined
  | tcp
  | tls
  | https
deriving DecidableEq

structure ProxyHeader where
  id : String
  clientAddr : String
  proto : String
  edgeType : EdgeType
  passthroughTls : Bool
deriving DecidableEq

inductive ReadHeaderError (ε : Type) where
  | io (failure : ReadFailure ε)
  | invalidUtf8
  | invalidHeader
deriving DecidableEq

/-- The parts of `serde_json` that incoming requests are read with: whether bytes are one
JSON value, and what the fields of a value or of a text are. -/
structure Json (Value : Type*) where
  fromSlice : List UInt8 → Option Value
  stopTunnel : Value → Option StopTunnel
  proxyHeader : String → Option ProxyHeader

/-- `Typed::accept_typed` on the next stream. A stream that ends before its type is
reported like a closed stream of this session. -/
def acceptTyped (stream : StreamReads) : Option (Except Muxado.Error TypedStream) :=
  match Arrivals.readExact stream.ending [] 4 stream.pieces with
  | none => none
  | some (.error _) => some (.error .streamClosed)
  | some (.ok (bytes, rest)) =>
      match BigEndian.getU32 bytes with
      | some (typ, _) => some (.ok ⟨typ, rest⟩)
      | none => none

/-- One pass through the loop of `Heartbeat::accept_typed`, where `none` stands for a
stream of its own that it has given to a responder. -/
def heartbeatPass (stream : StreamReads) :
    Option (Except Muxado.Error (Option TypedStream)) :=
  match acceptTyped stream with
  | none => none
  | some (.error error) => some (.error error)
  | some (.ok stream) =>
      if stream.typ = heartbeatType then some (.ok none) else some (.ok (some stream))

variable {Value : Type*} {ε : Type}

/-- `read_req` with what it has read so far. Every pass reads up to 256 bytes, and at the
end of the stream the same bytes are tried again and again, so that a loop of more passes
than there are bytes has no result. -/
def readReq (json : Json Value) : Nat → List UInt8 → StreamReads →
    Option (Except (ReadHeaderError Empty) StopTunnel)
  | 0, _, _ => none
  | passes + 1, buf, stream =>
      match Arrivals.read 256 stream.ending stream.pieces with
      | none => none
      | some (.error error) => some (.error (.io (.failed error)))
      | some (.ok (bytes, stream)) =>
          match json.fromSlice (buf ++ bytes) with
          | some value =>
              match json.stopTunnel value with
              | some req => some (.ok req)
              | none => some (.error .invalidHeader)
          | none => readReq json passes (buf ++ bytes) stream

def littleEndian : List UInt8 → Nat
  | [] => 0
  | byte :: bytes => byte.toNat + 256 * littleEndian bytes

/-- The outcome of `ProxyHeader::read_from_stream`, which panics when it asks for more than
`isize::MAX` bytes: a negative `i64` as a `usize` is such a number. -/
inductive HeaderRead (ε : Type) where
  | header (header : ProxyHeader)
  | failed (error : ReadHeaderError ε)
  | panicked
deriving DecidableEq

def readFromStream (json : Json Value) (stream : Arrivals UInt8 ε) : Option (HeaderRead ε) :=
  match Arrivals.readExact stream.ending [] 8 stream.pieces with
  | none => none
  | some (.error failure) => some (.failed (.io failure))
  | some (.ok (bytes, stream)) =>
      if 2 ^ 63 ≤ littleEndian bytes then some .panicked
      else
        match Arrivals.readExact stream.ending [] (littleEndian bytes) stream.pieces with
        | none => none
        | some (.error failure) => some (.failed (.io failure))
        | some (.ok (buf, _)) =>
            match String.fromUTF8? ⟨buf.toArray⟩ with
            | none => some (.failed .invalidUtf8)
            | some text =>
                match json.proxyHeader text with
                | none => some (.failed .invalidHeader)
                | some header => some (.header header)

/-- `raw_session::AcceptError`. -/
inductive RawAcceptError where
  | transport (error : Muxado.Error)
  | header (error : ReadHeaderError Empty)
  | invalidType (typ : Nat)
deriving DecidableEq

/-- What one pass through the loop of `accept` does with a stream: go on with the next
one, close a tunnel first, or end the loop. -/
inductive AcceptPass where
  | again
  | stopTunnel (req : StopTunnel)
  | conn (header : ProxyHeader)
  | failed (error : RawAcceptError)
  | panicked
deriving DecidableEq

/-- One pass through the loop of `IncomingStreams::accept`. A request to stop a tunnel is
read only when there is a session to stop it in. -/
def acceptPass (json : Json Value) (hasSession : Bool) (stream : StreamReads) :
    Option AcceptPass :=
  match heartbeatPass stream with
  | none => none
  | some (.error error) => some (.failed (.transport error))
  | some (.ok none) => some .again
  | some (.ok (some stream)) =>
      if stream.typ = restartReq ∨ stream.typ = updateReq ∨ stream.typ = stopReq then some .again
      else if stream.typ = stopTunnelReq then
        if hasSession then
          match readReq json (stream.inner.symbols.length + 2) [] stream.inner with
          | none => none
          | some (.error error) => some (.failed (.header error))
          | some (.ok req) => some (.stopTunnel req)
        else some .again
      else if stream.typ = proxyReq then
        match readFromStream json stream.inner with
        | none => none
        | some (.failed error) => some (.failed (.header error))
        | some .panicked => some .panicked
        | some (.header header) => some (.conn header)
      else some (.failed (.invalidType stream.typ))

/-- The stream comes to its end for its reader before its type is there. -/
def EndsUntyped (stream : RemoteStream) : Prop :=
  stream.symbols.length < 4 ∧ (stream.ending = .fin ∨ stream.ending = .reopened ∨
    stream.ending = .rst true ∧ stream.symbols ≠ [])

instance (stream : RemoteStream) : Decidable (EndsUntyped stream) :=
  inferInstanceAs (Decidable (_ ∧ _))

theorem reads_ending_iff {stream : RemoteStream} :
    stream.reads.ending = .eof ↔ stream.ending = .fin ∨ stream.ending = .reopened ∨
      stream.ending = .rst true ∧ stream.symbols ≠ [] := by
  obtain ⟨pieces, ending⟩ := stream
  cases ending with
  | fin | reopened | nothing => simp [RemoteStream.reads]
  | rst increment =>
      by_cases read : (⟨pieces, .rst increment⟩ : RemoteStream).symbols = []
      · simp [RemoteStream.reads, read]
      · cases increment <;> simp [RemoteStream.reads, read]

theorem acceptTyped_error_iff {stream : RemoteStream} {error : Muxado.Error} :
    acceptTyped stream.reads = some (.error error) ↔
      EndsUntyped stream ∧ error = .streamClosed := by
  have same : stream.reads.symbols = stream.symbols := rfl
  rw [EndsUntyped, ← reads_ending_iff, ← same]
  unfold acceptTyped
  by_cases enough : 4 ≤ stream.reads.symbols.length
  · obtain ⟨rest, answered, -, -⟩ := Arrivals.readExact_of_symbols enough
    rw [answered]
    dsimp only
    constructor
    · intro failed
      split at failed
      · cases failed
      · cases failed
    · intro short
      omega
  · have few : stream.reads.pieces.flatten.length < 4 := Nat.lt_of_not_le enough
    rw [Arrivals.readExact_of_few few]
    cases stream.reads.ending with
    | eof => simp [Nat.lt_of_not_le enough, eq_comm]
    | failed error => exact error.elim
    | silence => simp

/-- The muxado session has not failed; all other errors of a stream are its own. -/
theorem acceptPass_transport_iff {json : Json Value} {hasSession : Bool} {stream : RemoteStream}
    {error : Muxado.Error} :
    acceptPass json hasSession stream.reads = some (.failed (.transport error)) ↔
      EndsUntyped stream ∧ error = .streamClosed := by
  rw [← acceptTyped_error_iff]
  unfold acceptPass heartbeatPass
  constructor
  · intro failed
    split at failed
    · cases failed
    · rename_i error' passed
      cases failed
      split at passed
      · cases passed
      · rename_i typed
        cases passed
        exact typed
      · split at passed <;> cases passed
    · cases failed
    · split at failed
      · cases failed
      · split at failed
        · split at failed
          · split at failed <;> cases failed
          · cases failed
        · split at failed
          · split at failed <;> cases failed
          · cases failed
  · intro typed
    rw [typed]

end Agent

end NgrokRust
