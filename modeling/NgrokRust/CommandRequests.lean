import NgrokRust.AgentAccept
import NgrokRust.ParsedReads

/-!
# Requests on command streams

`read_req` reads a restart, update or stop command, or a request to stop a tunnel.  It
reads until all it has is one JSON value and only then decodes the request.  It never looks
at whether a read was empty, and no read of a muxado stream fails: without a value it waits
for a stream that was reset, and tries the same bytes forever at the end of one.
-/

namespace NgrokRust

namespace Agent

/-- The parts of `serde_json` that `read_req` uses for one type of request. -/
structure RequestJson (Value Req : Type*) where
  fromSlice : List UInt8 → Option Value
  isObject : Value → Bool
  fromValue : Value → Option Req

/-- No bytes are no value, and behind an object there can only be white space: if part of
its text is a value already, then it is this object. -/
structure RequestJson.Lawful {Value Req : Type*} (json : RequestJson Value Req) : Prop where
  fromSlice_nil : json.fromSlice [] = none
  object_of_prefix : ∀ {text part : List UInt8} {value early : Value},
    json.fromSlice text = some value → json.isObject value = true → part <+: text →
      json.fromSlice part = some early → early = value

/-- `Either<io::Error, serde_json::Error>`. -/
inductive ReqError (ε : Type) where
  | left (error : ε)
  | right
deriving DecidableEq

/-- The errors of `read_req`, which only reads. -/
abbrev ReadReqError := ReqError Empty

def ReadReqError.toHeaderError : ReadReqError → ReadHeaderError Empty
  | .left error => .io (.failed error)
  | .right => .invalidHeader

namespace RequestJson

variable {Value Req : Type*} (json : RequestJson Value Req)

/-- `serde_json::from_value`. -/
def decode (value : Value) : Except ReadReqError Req :=
  match json.fromValue value with
  | some req => .ok req
  | none => .error .right

/-- The rest of `read_req` behind its loop. -/
def finish : Except Empty Value → Except ReadReqError Req
  | .error error => .error (.left error)
  | .ok value => json.decode value

/-- `read_req`, whose loop makes so many passes at most. -/
def readReq (passes : Nat) (stream : StreamReads) : Option (Except ReadReqError Req) :=
  (Arrivals.readUntil json.fromSlice 256 passes [] stream).map json.finish

def Returns (stream : StreamReads) (result : Except ReadReqError Req) : Prop :=
  ∃ passes, json.readReq passes stream = some result

/-- The first value that `read_req` has before it, all reads so far taken together. -/
def firstValue (stream : StreamReads) : Option Value :=
  (Arrivals.buffers 255 [] stream.pieces).findSome? json.fromSlice

/-- Reading a command request ends with the stream. If its bytes are one JSON object, then
with the request in it, whatever the reads; and if they are no JSON value, then with an error,
however the remote ends the stream. -/
structure ReadsRequest (stream : RemoteStream) : Prop where
  decodes : ∀ value, json.fromSlice stream.symbols = some value → json.isObject value = true →
    ∀ result, json.Returns stream.reads result ↔ result = json.decode value
  returns : stream.ending ≠ .nothing → ∃ result, json.Returns stream.reads result ∧
    (json.fromSlice stream.symbols = none → ∃ error, result = .error error)

variable {json} {stream : StreamReads}

theorem decode_eq_error_iff {value : Value} :
    (∃ error, json.decode value = .error error) ↔ json.fromValue value = none := by
  unfold decode
  cases json.fromValue value <;> simp

theorem returns_iff (lawful : json.Lawful) {result : Except ReadReqError Req} :
    json.Returns stream result ↔
      (Arrivals.outcome json.fromSlice stream.ending
        (Arrivals.buffers 255 [] stream.pieces)).map json.finish = some result := by
  simp only [Returns, readReq, Option.map_eq_some_iff,
    ← Arrivals.exists_readUntil_iff lawful.fromSlice_nil]
  constructor
  · rintro ⟨passes, read, returned, finished⟩
    exact ⟨read, ⟨passes, returned⟩, finished⟩
  · rintro ⟨read, ⟨passes, returned⟩, finished⟩
    exact ⟨passes, read, returned, finished⟩

theorem returns_of_firstValue (lawful : json.Lawful) {value : Value}
    (first : json.firstValue stream = some value) {result : Except ReadReqError Req} :
    json.Returns stream result ↔ json.decode value = result := by
  rw [returns_iff lawful, Arrivals.outcome_of_parsed first]
  simp [finish]

theorem not_returns_of_no_value (lawful : json.Lawful) (no : json.firstValue stream = none)
    {result : Except ReadReqError Req} : ¬ json.Returns stream result := by
  rw [returns_iff lawful, Arrivals.outcome_of_unparsed no]
  simp

/-- A value that is all of the stream is met at the latest with the last read. -/
theorem exists_firstValue (lawful : json.Lawful) {value : Value}
    (parsed : json.fromSlice stream.symbols = some value) :
    ∃ first, json.firstValue stream = some first ∧
      (json.isObject value = true → first = value) := by
  have nonempty : stream.pieces.flatten ≠ [] := by
    intro empty
    rw [Arrivals.symbols, empty, lawful.fromSlice_nil] at parsed
    cases parsed
  have last : stream.symbols ∈ Arrivals.buffers 255 [] stream.pieces :=
    Arrivals.flatten_mem_buffers nonempty
  have met : (json.firstValue stream).isSome := by
    rw [firstValue, List.findSome?_isSome_iff]
    exact ⟨stream.symbols, last, by simp [parsed]⟩
  obtain ⟨first, found⟩ := Option.isSome_iff_exists.1 met
  refine ⟨first, found, fun object => ?_⟩
  obtain ⟨part, mem, early⟩ := List.exists_of_findSome?_eq_some found
  exact lawful.object_of_prefix parsed object (Arrivals.prefix_of_mem_buffers mem) early

theorem returns_of_object (lawful : json.Lawful) {value : Value}
    (parsed : json.fromSlice stream.symbols = some value) (object : json.isObject value = true)
    (result : Except ReadReqError Req) :
    json.Returns stream result ↔ result = json.decode value := by
  obtain ⟨first, found, same⟩ := exists_firstValue lawful parsed
  rw [returns_of_firstValue lawful found, same object]
  exact eq_comm

theorem exists_returns_iff (lawful : json.Lawful) (stream : StreamReads) :
    (∃ result, json.Returns stream result ∧
      (json.fromSlice stream.symbols = none → ∃ error, result = .error error)) ↔
      (json.fromSlice stream.symbols).isSome ∨
        ∃ value, json.firstValue stream = some value ∧ json.fromValue value = none := by
  cases first : json.firstValue stream with
  | none =>
      have unparsed : json.fromSlice stream.symbols = none := by
        rw [Option.eq_none_iff_forall_ne_some]
        intro value parsed
        obtain ⟨_, found, -⟩ := exists_firstValue lawful parsed
        rw [first] at found
        cases found
      simp [not_returns_of_no_value lawful first, unparsed]
  | some value =>
      simp only [returns_of_firstValue lawful first]
      constructor
      · rintro ⟨_, rfl, rejected⟩
        cases parsed : json.fromSlice stream.symbols with
        | some whole => exact .inl rfl
        | none => exact .inr ⟨value, rfl, decode_eq_error_iff.1 (rejected parsed)⟩
      · intro fine
        refine ⟨_, rfl, fun unparsed => decode_eq_error_iff.2 ?_⟩
        simpa [unparsed] using fine

/-- Two bytes, `{}`, are the only JSON. -/
def onlyEmptyObject : RequestJson Unit Unit where
  fromSlice := fun bytes => if bytes = [123, 125] then some () else none
  isObject := fun _ => true
  fromValue := some

theorem onlyEmptyObject_lawful : onlyEmptyObject.Lawful where
  fromSlice_nil := rfl
  object_of_prefix := fun _ _ _ _ => rfl

end RequestJson

section AcceptLoop

variable {Value : Type*} {json : Json Value} {isObject : Value → Bool}

/-- What `accept` reads requests to stop a tunnel with. -/
def Json.stopRequests (json : Json Value) (isObject : Value → Bool) :
    RequestJson Value StopTunnel :=
  ⟨json.fromSlice, isObject, json.stopTunnel⟩

variable (isObject) in
theorem readReq_eq_readUntil (passes : Nat) (buf : List UInt8) (stream : StreamReads) :
    readReq json passes buf stream =
      ((Arrivals.readUntil json.fromSlice 256 passes buf stream).map
        (json.stopRequests isObject).finish).map (·.mapError ReadReqError.toHeaderError) := by
  induction passes generalizing buf stream with
  | zero => rfl
  | succ passes ih =>
      rw [readReq, Arrivals.readUntil]
      cases Arrivals.read 256 stream.ending stream.pieces with
      | none => rfl
      | some answer =>
          cases answer with
          | error error => rfl
          | ok read =>
              dsimp only
              cases json.fromSlice (buf ++ read.1) with
              | none => exact ih _ _
              | some value =>
                  simp only [Option.map_some, RequestJson.finish, RequestJson.decode,
                    Json.stopRequests]
                  cases json.stopTunnel value <;> rfl

/-- The passes of the accept loop are enough for every result. -/
theorem readReq_eq_none_iff (lawful : (json.stopRequests isObject).Lawful)
    {stream : StreamReads} :
    readReq json (stream.symbols.length + 2) [] stream = none ↔
      ∀ result, ¬ (json.stopRequests isObject).Returns stream result := by
  have enough : (Arrivals.buffers 255 [] stream.pieces).length < stream.symbols.length + 2 :=
    Nat.lt_add_right 1 (Nat.lt_succ_of_le (Arrivals.length_buffers_le 255 [] stream.pieces))
  have settled : Arrivals.readUntil json.fromSlice 256 (stream.symbols.length + 2) [] stream =
      Arrivals.outcome (json.stopRequests isObject).fromSlice stream.ending
        (Arrivals.buffers 255 [] stream.pieces) :=
    Arrivals.readUntil_eq_outcome lawful.fromSlice_nil enough
  rw [readReq_eq_readUntil isObject, settled]
  simp only [RequestJson.returns_iff lawful, Option.map_eq_none_iff]
  cases Arrivals.outcome (json.stopRequests isObject).fromSlice stream.ending
    (Arrivals.buffers 255 [] stream.pieces) with
  | none => simp
  | some read => simp

namespace Session

variable {session : Session}

/-- `read_req` runs inside the accept loop: where it does not return, the session accepts
nothing any more. -/
theorem accept_of_unread (lawful : (json.stopRequests isObject).Lawful) {stream : RemoteStream}
    {typed : TypedStream} {labels : List Label} (accept : session.accept = .accepting)
    (served : session.incomingSession = true)
    (passed : heartbeatPass stream.reads = some (.ok (some typed)))
    (typ : typed.typ = stopTunnelReq)
    (unread : ∀ result, ¬ (json.stopRequests isObject).Returns typed.inner result) :
    (LabelledRuns.run (Session.step json) session (.incoming (some stream) :: labels)).accept =
      .reading := by
  have other : ¬ (stopTunnelReq = restartReq ∨ stopTunnelReq = updateReq ∨
      stopTunnelReq = stopReq) := by decide
  have pass : acceptPass json session.incomingSession stream.reads = none := by
    simp only [acceptPass, passed, typ, other, served, if_false, if_true,
      (readReq_eq_none_iff lawful).2 unread]
  have next : (session.step json (.incoming (some stream))).accept = .reading := by
    simp only [step, incoming, accept, pass]
    rfl
  rw [LabelledRuns.run_cons, accept_run_of_stuck labels (.inl next), next]

end Session

end AcceptLoop

end Agent

end NgrokRust
