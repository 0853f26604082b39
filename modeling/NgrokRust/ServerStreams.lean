import NgrokRust.AgentStop
import NgrokRust.CommandRequests
import NgrokRust.MuxadoStream
import NgrokRust.RpcClient
import NgrokRust.UserAgent

/-!
# Streams that the server opens

The server announces connections, asks to stop tunnels and sends the commands of the
dashboard, each on a stream of its own, which begins with a type.  What it writes there is
what the agent acts on, in whatever pieces it arrives.
-/

namespace NgrokRust

open JsonTrees Proto

namespace Agent

variable {Num : Type} {text : Text Num}

/-- What a request of one type is read with. -/
def requestJson {Req : Type} (text : Text Num) (format : Format Num Req) :
    RequestJson (JsonTrees.Value Num) Req where
  fromSlice := fromSlice text
  isObject value := value.val.isObject
  fromValue value := format.read value.val

def wireJson (text : Text Num) : Json (JsonTrees.Value Num) where
  fromSlice := fromSlice text
  stopTunnel value := StopTunnel.record.format.read value.val
  proxyHeader string := (text.parse string).bind ProxyHeader.record.format.read

def putLittleEndian : Nat → Nat → List UInt8
  | 0, _ => []
  | count + 1, number => UInt8.ofNat (number % 256) :: putLittleEndian count (number / 256)

theorem length_putLittleEndian (count number : Nat) :
    (putLittleEndian count number).length = count := by
  induction count generalizing number with
  | zero => rfl
  | succ count ih => rw [putLittleEndian, List.length_cons, ih]

theorem littleEndian_putLittleEndian {count number : Nat} (fits : number < 256 ^ count) :
    littleEndian (putLittleEndian count number) = number := by
  induction count generalizing number with
  | zero =>
      rw [Nat.pow_zero, Nat.lt_one_iff] at fits
      rw [fits]
      rfl
  | succ count ih =>
      rw [Nat.pow_succ] at fits
      have digit : (UInt8.ofNat (number % 256)).toNat = number % 256 := by simp
      rw [putLittleEndian, littleEndian, digit, ih (by omega)]
      omega

/-- The object has the members of a record, in any order and perhaps with others, and no key
twice. -/
structure Writes {Req : Type} (record : Record Num Req Req) (req : Req)
    (entries : List (String × JsonTrees.Json Num)) : Prop where
  distinct : (entries.map Prod.fst).Nodup
  members : ∃ written, record.format.write req = .ok (.object written) ∧
    (entries.filter (·.1 ∈ record.keys)).Perm (written.filter (·.1 ∈ record.keys))

def Flat {Req : Type} (record : Record Num Req Req) : Prop :=
  ∀ req written, record.format.write req = .ok (.object written) →
    ∀ entry ∈ written, entry.2.normal = entry.2

theorem flat_stop : Flat (Stop.record : Record Num _ _) := by
  intro req written writes entry mem
  cases writes
  cases mem

theorem flat_restart : Flat (Restart.record : Record Num _ _) := by
  intro req written writes entry mem
  cases writes
  cases mem

theorem flat_update : Flat (Update.record : Record Num _ _) := by
  intro req written writes entry mem
  cases writes
  obtain rfl | rfl : entry = _ ∨ entry = _ := by simpa [Record.present] using mem
  · rfl
  · rfl

theorem flat_stopTunnel : Flat (StopTunnel.record : Record Num _ _) := by
  intro req written writes entry mem
  obtain ⟨clientId, message, errorCode⟩ := req
  cases errorCode with
  | none =>
      cases writes
      obtain rfl | rfl | rfl : entry = _ ∨ entry = _ ∨ entry = _ := by
        simpa [Record.present] using mem
      · rfl
      · rfl
      · rfl
  | some errorCode =>
      cases writes
      obtain rfl | rfl | rfl : entry = _ ∨ entry = _ ∨ entry = _ := by
        simpa [Record.present] using mem
      · rfl
      · rfl
      · rfl

/-- What is behind the type is the text of one object. -/
structure Announces (text : Text Num) (typ : Nat) (entries : List (String × JsonTrees.Json Num))
    (stream : StreamReads) : Prop where
  symbols : stream.symbols = BigEndian.putU32 typ ++ utf8 (text.print (.object entries))
  parses : text.parse (text.print (.object entries)) = some (.object entries)

section Reading

variable {Req : Type} {record : Record Num Req Req} {req : Req}
  {entries : List (String × JsonTrees.Json Num)} {stream : StreamReads}

theorem read_of_writes (carried : record.format.Carries req req) (flat : Flat record)
    (writes : Writes record req entries) :
    record.format.read (JsonTrees.Json.object entries).normal = some req := by
  obtain ⟨distinct, written, same, perm⟩ := writes
  obtain ⟨json, sameJson, back⟩ := carried
  obtain rfl : .object written = json := Except.ok.inj (same.symm.trans sameJson)
  rw [Record.read_normal distinct perm (flat req written same), back]

/-- `read_req` returns the request, in whatever pieces the object arrives and whatever
follows behind it. -/
theorem returns_written (lawful : (requestJson text record.format).Lawful)
    (carried : record.format.Carries req req) (flat : Flat record)
    (writes : Writes record req entries)
    (symbols : stream.symbols = utf8 (text.print (.object entries)))
    (parses : text.parse (text.print (.object entries)) = some (.object entries))
    (result : Except ReadReqError Req) :
    (requestJson text record.format).Returns stream result ↔ result = .ok req := by
  have whole : (requestJson text record.format).fromSlice stream.symbols =
      some (JsonTrees.Json.object entries).toValue := by
    change fromSlice text stream.symbols = _
    simp only [symbols, fromSlice, fromUTF8?_utf8, parses, Option.map_some]
  obtain ⟨first, found, same⟩ := RequestJson.exists_firstValue lawful whole
  have object : first = (JsonTrees.Json.object entries).toValue := same rfl
  have read : (requestJson text record.format).decode first = .ok req := by
    have decoded := read_of_writes carried flat writes
    simp only [RequestJson.decode, requestJson, object, Json.toValue, decoded]
  rw [RequestJson.returns_of_firstValue lawful found, read]
  exact eq_comm

theorem heartbeatPass_announced {typ : Nat} (small : typ < 2 ^ 32) (other : typ ≠ heartbeatType)
    {bytes : List UInt8} (symbols : stream.symbols = BigEndian.putU32 typ ++ bytes) :
    ∃ rest, heartbeatPass stream = some (.ok (some ⟨typ, rest⟩)) ∧ rest.symbols = bytes := by
  obtain ⟨rest, typed, left⟩ := Rpc.acceptTyped_putU32 small symbols
  refine ⟨rest, ?_, left⟩
  simp only [heartbeatPass, typed, other, if_false]

end Reading

/-- The accept loop makes enough passes for every result of `read_req`. -/
theorem readReq_of_returns {Value : Type*} {json : Json Value} {isObject : Value → Bool}
    (lawful : (json.stopRequests isObject).Lawful) {stream : StreamReads}
    {result : Except ReadReqError StopTunnel}
    (returns : (json.stopRequests isObject).Returns stream result) :
    readReq json (stream.symbols.length + 2) [] stream =
      some (result.mapError ReadReqError.toHeaderError) := by
  have enough : (Arrivals.buffers 255 [] stream.pieces).length < stream.symbols.length + 2 :=
    Nat.lt_add_right 1 (Nat.lt_succ_of_le (Arrivals.length_buffers_le 255 [] stream.pieces))
  have settled : Arrivals.readUntil json.fromSlice 256 (stream.symbols.length + 2) [] stream =
      Arrivals.outcome (json.stopRequests isObject).fromSlice stream.ending
        (Arrivals.buffers 255 [] stream.pieces) :=
    Arrivals.readUntil_eq_outcome lawful.fromSlice_nil enough
  rw [readReq_eq_readUntil isObject, settled, (RequestJson.returns_iff lawful).1 returns]
  rfl

theorem requestsStop_announced
    (lawful : (requestJson text (StopTunnel.record : Record Num _ _).format).Lawful)
    {req : StopTunnel} {entries : List (String × JsonTrees.Json Num)} {stream : RemoteStream}
    (writes : Writes StopTunnel.record req entries)
    (announces : Announces text stopTunnelReq entries stream.reads) :
    RequestsStop (wireJson text) stream req := by
  obtain ⟨symbols, parses⟩ := announces
  obtain ⟨rest, passed, left⟩ := heartbeatPass_announced (by decide) (by decide) symbols
  refine ⟨⟨stopTunnelReq, rest⟩, passed, rfl, ?_⟩
  have lawful' : ((wireJson text).stopRequests fun value => value.val.isObject).Lawful := lawful
  exact readReq_of_returns lawful'
    ((returns_written lawful StopTunnel.carries flat_stopTunnel writes left parses _).2 rfl)

/-- `PROXY_REQ`: the length of the header as eight bytes, and the header. -/
structure Connects (text : Text Num) (entries : List (String × JsonTrees.Json Num))
    (visitor : List UInt8) (stream : StreamReads) : Prop where
  symbols : stream.symbols = BigEndian.putU32 proxyReq ++
    (putLittleEndian 8 (utf8 (text.print (.object entries))).length ++
      (utf8 (text.print (.object entries)) ++ visitor))
  fits : (utf8 (text.print (.object entries))).length < 2 ^ 63
  parses : text.parse (text.print (.object entries)) = some (.object entries)

/-- The accept loop gets the header as the server wrote it, in whatever pieces it arrives and
whatever the visitor sends behind it. -/
theorem acceptPass_connects {header : ProxyHeader}
    {entries : List (String × JsonTrees.Json Num)} {visitor : List UInt8} {stream : StreamReads}
    (writes : Writes ProxyHeader.record header entries)
    (connects : Connects text entries visitor stream) (hasSession : Bool) :
    acceptPass (wireJson text) hasSession stream = some (.conn header) := by
  obtain ⟨symbols, fits, parses⟩ := connects
  obtain ⟨rest, passed, left⟩ := heartbeatPass_announced (by decide) (by decide) symbols
  have lengths := length_putLittleEndian 8 (utf8 (text.print (.object entries))).length
  have eight : 8 ≤ rest.symbols.length := by
    rw [left, List.length_append, lengths]
    exact Nat.le_add_right _ _
  obtain ⟨rest', length_, left', -⟩ := Arrivals.readExact_of_symbols eight
  have first : rest.symbols.take 8 =
      putLittleEndian 8 (utf8 (text.print (.object entries))).length := by
    rw [left, List.take_append_of_le_length (Nat.le_of_eq lengths.symm),
      List.take_of_length_le (Nat.le_of_eq lengths)]
  have behind : rest'.symbols = utf8 (text.print (.object entries)) ++ visitor := by
    rw [left', left, List.drop_append_of_le_length (Nat.le_of_eq lengths.symm),
      List.drop_of_length_le (Nat.le_of_eq lengths), List.nil_append]
  have enough : (utf8 (text.print (.object entries))).length ≤ rest'.symbols.length := by
    rw [behind, List.length_append]
    exact Nat.le_add_right _ _
  obtain ⟨final, bytes, -, -⟩ := Arrivals.readExact_of_symbols enough
  have header_ : rest'.symbols.take (utf8 (text.print (.object entries))).length =
      utf8 (text.print (.object entries)) := by
    rw [behind, List.take_append_of_le_length le_rfl, List.take_length]
  have number : littleEndian (rest.symbols.take 8) =
      (utf8 (text.print (.object entries))).length := by
    rw [first, littleEndian_putLittleEndian (by omega)]
  have parsed : (wireJson text).proxyHeader (text.print (.object entries)) = some header := by
    obtain ⟨-, written, same, perm⟩ := writes
    have carries : (ProxyHeader.record : Record Num _ _).format.Carries header header :=
      ProxyHeader.carries
    obtain ⟨json, sameJson, back⟩ := carries
    obtain rfl : .object written = json := Except.ok.inj (same.symm.trans sameJson)
    simp only [wireJson, parses, Option.bind_some]
    rw [Record.read_object_perm perm, back]
  have small : ¬ 2 ^ 63 ≤ (utf8 (text.print (.object entries))).length := Nat.not_le.2 fits
  have read : readFromStream (wireJson text) rest = some (.header header) := by
    simp only [readFromStream, length_, number, small, if_false, bytes, header_, fromUTF8?_utf8,
      parsed]
  have typ : ¬ (proxyReq = restartReq ∨ proxyReq = updateReq ∨ proxyReq = stopReq) := by decide
  have other : proxyReq ≠ stopTunnelReq := by decide
  simp only [acceptPass, passed, typ, other, if_false, if_true, read]

/-- A parser that knows one text only. -/
theorem lawful_oneText {Req : Type} {format : Format Int Req} {json : JsonTrees.Json Int}
    (nonempty : compact json ≠ "") : (requestJson (oneText json) format).Lawful := by
  have known {bytes : List UInt8} {value : JsonTrees.Value Int}
      (parsed : fromSlice (oneText json) bytes = some value) : value = json.toValue := by
    unfold fromSlice at parsed
    split at parsed
    · cases parsed
    · obtain ⟨tree, read, rfl⟩ := Option.map_eq_some_iff.1 parsed
      simp only [oneText] at read
      split at read
      · cases read
        rfl
      · cases read
  refine ⟨?_, fun whole _ _ early => (known early).trans (known whole).symm⟩
  have empty : String.fromUTF8? ⟨#[]⟩ = some "" := fromUTF8?_utf8 ""
  change fromSlice (oneText json) [] = none
  simp [fromSlice, empty, oneText, Ne.symm nonempty]

/-- What the server has for a tunnel. -/
inductive Announcement where
  | connection (header : ProxyHeader)
  | stop (req : StopTunnel)

namespace Announcement

def id : Announcement → String
  | connection header => header.id
  | stop req => req.clientId

def message (tun : BoundTunnel) : Announcement → Except AcceptError ConnInner
  | connection header => .ok (tun.connInner header)
  | stop req => .error (.listenerClosed req.message req.errorCode)

def tunnelsAfter (tunnels : TunnelConns) : Announcement → TunnelConns
  | connection _ => tunnels
  | stop req => tunnels.erase req.clientId

/-- Requests to stop a tunnel need the session. -/
def Served (session : Session) : Announcement → Prop
  | connection _ => True
  | stop _ => session.incomingSession = true

/-- The server has written it to a stream. -/
def WrittenTo (text : Text Num) (stream : RemoteStream) : Announcement → Prop
  | connection header => ∃ entries visitor,
      Writes ProxyHeader.record header entries ∧ Connects text entries visitor stream.reads
  | stop req => ∃ entries,
      Writes StopTunnel.record req entries ∧ Announces text stopTunnelReq entries stream.reads

end Announcement

namespace Session

open LabelledRuns

theorem step_stopSending {Value : Type*} {json : Json Value} {session : Session} {inner : Nat}
    {tx : Tx} {error : AcceptError} (accept : session.accept = .stopSending inner tx error)
    (receives : (session.channels tx).receiverOpen = true) (room : ¬ (session.channels tx).Full)
    (order : List (Σ _ : String, BoundTunnel)) :
    session.step json (.acceptResume order) = session.send tx (.error error) .accepting := by
  simp only [step, acceptResume, accept, room, receives, if_false, if_true]

/-- What the server writes to a stream for a tunnel is the next message of that tunnel, and
of no other one, and the accept loop goes on. -/
theorem announced_reaches
    (lawful : (requestJson text (StopTunnel.record : Record Num _ _).format).Lawful)
    {announcement : Announcement} {stream : RemoteStream}
    (written : announcement.WrittenTo text stream) {session : Session} {tun : BoundTunnel}
    (accepting : session.accept = .accepting) (served : announcement.Served session)
    (found : (session.inners session.current).tunnels.lookup announcement.id = some tun)
    (receives : (session.channels tun.tx).receiverOpen = true)
    (room : ¬ (session.channels tun.tx).Full) :
    let after := run (Session.step (wireJson text)) session
      [.incoming (some stream), .acceptResume [], .acceptResume []]
    after.taken tun.tx = session.taken tun.tx ++ [announcement.message tun] ∧
      (∀ tx, tx ≠ tun.tx → after.taken tx = session.taken tx) ∧
      after.accept = .accepting ∧ after.current = session.current ∧
      (after.inners session.current).tunnels =
        announcement.tunnelsAfter (session.inners session.current).tunnels := by
  cases announcement with
  | connection header =>
      obtain ⟨entries, visitor, writes, connects⟩ := written
      have pass := acceptPass_connects writes connects session.incomingSession
      have found_ : (session.inners session.current).tunnels.lookup header.id = some tun := found
      have reached : run (Session.step (wireJson text)) session
          [.incoming (some stream), .acceptResume [], .acceptResume []] =
            session.send tun.tx (.ok (tun.connInner header)) .accepting := by
        simp only [run_cons, run_nil, step, incoming, accepting, pass, acceptResume, setAccept,
          found_, room, receives, if_false, if_true]
        rfl
      rw [reached]
      refine ⟨?_, fun tx other => ?_, rfl, rfl, rfl⟩
      · simp [taken, send, setAccept, setChannel, TunnelChannel.push, Announcement.message]
      · simp [taken, send, setAccept, setChannel, other]
  | stop req =>
      obtain ⟨entries, writes, announces⟩ := written
      have request := requestsStop_announced lawful writes announces
      have found_ : (session.inners session.current).tunnels.lookup req.clientId = some tun :=
        found
      have stopped := run_stopTunnel accepting served request found_
      have reached : run (Session.step (wireJson text)) session
          [.incoming (some stream), .acceptResume [], .acceptResume []] =
            ((session.setAccept (.stopping session.current req)).stopTunnel session.current req
              tun).send tun.tx (.error (.listenerClosed req.message req.errorCode))
                .accepting := by
        have split : [Label.incoming (some stream), .acceptResume [], .acceptResume []] =
          [.incoming (some stream), .acceptResume []] ++ [.acceptResume []] := rfl
        have waits : ((session.setAccept (.stopping session.current req)).stopTunnel
            session.current req tun).accept = .stopSending session.current tun.tx
              (.listenerClosed req.message req.errorCode) := rfl
        rw [split, run_append, stopped, run_cons, run_nil]
        exact step_stopSending waits receives room []
      rw [reached]
      refine ⟨?_, fun tx other => ?_, rfl, rfl, ?_⟩
      · simp [taken, send, setAccept, setChannel, stopTunnel, setInner, setHandle,
          TunnelChannel.push, Announcement.message]
      · simp [taken, send, setAccept, setChannel, stopTunnel, setInner, setHandle, other]
      · simp [send, setAccept, setChannel, stopTunnel, setInner, setHandle,
          Announcement.tunnelsAfter]

def visitorHeader : ProxyHeader := ⟨"tn_1", "203.0.113.7:4711", "https", .https, false⟩

def visitorEntries : List (String × JsonTrees.Json Int) :=
  [("Id", .string "tn_1"), ("ClientAddr", .string "203.0.113.7:4711"), ("Proto", .string "https"),
    ("EdgeType", .string "3"), ("PassthroughTLS", .bool false)]

def visitorText : Text Int := oneText (.object visitorEntries)

/-- The length and the header come in separate pieces, and then a first byte of the visitor. -/
def visitorStream : RemoteStream where
  pieces :=
    [[0, 0, 0, 3],
      putLittleEndian 8 (utf8 (visitorText.print (.object visitorEntries))).length,
      utf8 (visitorText.print (.object visitorEntries)), [71]]
  ending := .nothing

theorem announced_reaches_visitor :
    let session := run (Session.step (wireJson visitorText)) (connected someBuilder)
      (Label.startHttp 0 "tn_1")
    (run (Session.step (wireJson visitorText)) session
      [.incoming (some visitorStream), .acceptResume [], .acceptResume []]).taken 0 =
        [.ok ((httpEntry "tn_1" 0).2.connInner visitorHeader)] := by
  intro session
  have writes : Writes ProxyHeader.record visitorHeader visitorEntries :=
    ⟨by decide, visitorEntries, rfl, List.Perm.refl _⟩
  have connects : Connects visitorText visitorEntries [71] visitorStream.reads :=
    ⟨by simp [visitorStream, RemoteStream.reads, Arrivals.symbols, BigEndian.putU32, proxyReq],
      by decide +kernel, parse_oneText _⟩
  have written : (Announcement.connection visitorHeader).WrittenTo visitorText visitorStream :=
    ⟨visitorEntries, [71], writes, connects⟩
  have found : (session.inners session.current).tunnels.lookup
      (Announcement.connection visitorHeader).id = some (httpEntry "tn_1" 0).2 := rfl
  have receives : (session.channels (httpEntry "tn_1" 0).2.tx).receiverOpen = true := rfl
  have room : ¬ (session.channels (httpEntry "tn_1" 0).2.tx).Full := by decide
  exact (announced_reaches (lawful_oneText (by decide +kernel)) written rfl trivial found receives
    room).1

end Session

inductive Command where
  | restart
  | update
  | stop

namespace Command

def Req : Command → Type
  | restart => Restart
  | update => Update
  | stop => Stop

def typ : Command → Nat
  | restart => restartReq
  | update => updateReq
  | stop => stopReq

def record : (command : Command) → Record Num command.Req command.Req
  | restart => Restart.record
  | update => Update.record
  | stop => Stop.record

def handler (handlers : Builder.CommandHandlers) : Command → Option Builder.Handle
  | restart => handlers.onRestart
  | update => handlers.onUpdate
  | stop => handlers.onStop

def unsupported (extra : AuthExtra) : Command → Option String
  | restart => extra.restartUnsupportedError
  | update => extra.updateUnsupportedError
  | stop => extra.stopUnsupportedError

theorem carries (command : Command) (req : command.Req) :
    (command.record : Record Num _ _).format.Carries req req := by
  cases command with
  | restart => exact Restart.carries
  | update => exact Update.carries
  | stop => exact Stop.carries

theorem flat (command : Command) : Flat (command.record : Record Num _ _) := by
  cases command with
  | restart => exact flat_restart
  | update => exact flat_update
  | stop => exact flat_stop

theorem unsupported_authExtra (command : Command) (builder : Builder.SessionBuilder)
    (platform : Builder.Platform) : command.unsupported (builder.authExtra platform) =
      Builder.unsupportedError (command.handler builder.handlers) := by
  cases command <;> rfl

def answer {Req : Type} (handler : Option (Req → Option String)) (req : Req) : CommandResp :=
  match handler with
  | some run => ⟨run req⟩
  | none => ⟨some Builder.notImplemented⟩

/-- `to_vec` of a response. -/
def toVec (text : Text Num) (resp : CommandResp) : Option (List UInt8) :=
  match (CommandResp.record : Record Num _ _).format.write resp with
  | .ok json => some (utf8 (text.print json))
  | .error _ => none

/-- `handle_req`, with what `write_all` answers, and the bytes that it has written. -/
def handleReq {Req : Type} (text : Text Num) (record : Record Num Req Req)
    (handler : Option (Req → Option String)) (written : Except Muxado.IoError Unit)
    (passes : Nat) (stream : StreamReads) :
    Option (Except (ReqError Muxado.IoError) (List UInt8)) :=
  match (requestJson text record.format).readReq passes stream with
  | none => none
  | some (.error (.left error)) => error.elim
  | some (.error .right) => some (.error .right)
  | some (.ok req) =>
      match toVec text (answer handler req), written with
      | none, _ => some (.error .right)
      | some _, .error error => some (.error (.left error))
      | some bytes, .ok () => some (.ok bytes)

def readResp (text : Text Num) (bytes : List UInt8) : Option CommandResp :=
  ((String.fromUTF8? ⟨bytes.toArray⟩).bind text.parse).bind
    (CommandResp.record : Record Num _ _).format.read

theorem readResp_toVec {resp : CommandResp}
    (prints : Rpc.Prints text (CommandResp.record : Record Num _ _).format resp) :
    ∃ bytes, toVec text resp = some bytes ∧ readResp text bytes = some resp := by
  have carries : (CommandResp.record : Record Num _ _).format.Carries resp resp :=
    CommandResp.carries
  obtain ⟨json, written, back⟩ := carries
  refine ⟨utf8 (text.print json), by rw [toVec, written], ?_⟩
  rw [readResp, fromUTF8?_utf8, Option.bind_some, prints json written, Option.bind_some, back]

/-- `handle_req` returns when `read_req` does. -/
theorem handleReq_of_returns {Req : Type} {record : Record Num Req Req}
    {handler : Option (Req → Option String)} {stream : StreamReads} {req : Req}
    {bytes : List UInt8} (written : toVec text (answer handler req) = some bytes)
    (returns : ∀ result, (requestJson text record.format).Returns stream result ↔
      result = .ok req) (result : Except (ReqError Muxado.IoError) (List UInt8)) :
    (∃ passes, handleReq text record handler (.ok ()) passes stream = some result) ↔
      result = .ok bytes := by
  have handled (passes : Nat)
      (read : (requestJson text record.format).readReq passes stream = some (.ok req)) :
      handleReq text record handler (.ok ()) passes stream = some (.ok bytes) := by
    simp only [handleReq, read, written]
  constructor
  · rintro ⟨passes, answered⟩
    cases read : (requestJson text record.format).readReq passes stream with
    | none =>
        rw [handleReq, read] at answered
        cases answered
    | some first =>
        obtain rfl := (returns first).1 ⟨passes, read⟩
        rw [handled passes read] at answered
        exact (Option.some.inj answered).symm
  · rintro rfl
    obtain ⟨passes, read⟩ := (returns (.ok req)).2 rfl
    exact ⟨passes, handled passes read⟩

/-- A command of the dashboard does not stop the accept loop.  The task that handles it
answers once, with what the handler says of the request, or without a handler with the error
that the agent has announced for the command when it authenticated. -/
theorem answered (command : Command) (builder : Builder.SessionBuilder)
    (platform : Builder.Platform) (runs : Builder.Handle → command.Req → Option String)
    (lawful : (requestJson text command.record.format).Lawful) {req : command.Req}
    {entries : List (String × JsonTrees.Json Num)} {stream : RemoteStream}
    (writes : Writes command.record req entries)
    (announces : Announces text command.typ entries stream.reads)
    (prints : Rpc.Prints text (CommandResp.record : Record Num _ _).format
      (answer ((command.handler builder.handlers).map runs) req)) (hasSession : Bool) :
    let handler := (command.handler builder.handlers).map runs
    acceptPass (wireJson text) hasSession stream.reads = some .again ∧
      ∃ typed bytes announced,
        heartbeatPass stream.reads = some (.ok (some typed)) ∧ typed.typ = command.typ ∧
        (∀ result, (∃ passes, handleReq text command.record handler (.ok ()) passes typed.inner =
          some result) ↔ result = .ok bytes) ∧
        readResp text bytes = some (answer handler req) ∧
        command.unsupported (builder.authExtra platform) = some announced ∧
        (announced ≠ "" ↔ handler = none) ∧
        (announced ≠ "" → answer handler req = ⟨some announced⟩) := by
  intro handler
  obtain ⟨symbols, parses⟩ := announces
  have small : command.typ < 2 ^ 32 := by cases command <;> decide
  have other : command.typ ≠ heartbeatType := by cases command <;> decide
  have known : command.typ = restartReq ∨ command.typ = updateReq ∨ command.typ = stopReq := by
    cases command <;> decide
  obtain ⟨rest, passed, left⟩ := heartbeatPass_announced small other symbols
  have returns (result : Except ReadReqError command.Req) :=
    returns_written lawful (command.carries req) command.flat writes left parses result
  obtain ⟨bytes, written, read⟩ := readResp_toVec prints
  have pass : acceptPass (wireJson text) hasSession stream.reads = some .again := by
    simp only [acceptPass, passed, known, if_true]
  have once (result : Except (ReqError Muxado.IoError) (List UInt8)) :=
    handleReq_of_returns written returns result
  have announced := command.unsupported_authExtra builder platform
  cases found : command.handler builder.handlers with
  | none =>
      rw [found] at announced
      have none_ : handler = none := by
        change (command.handler builder.handlers).map runs = none
        rw [found]
        rfl
      refine ⟨pass, ⟨command.typ, rest⟩, bytes, Builder.notImplemented, passed, rfl, once, read,
        announced, ⟨fun _ => none_, fun _ => by decide⟩, fun _ => ?_⟩
      rw [none_]
      rfl
  | some handle =>
      rw [found] at announced
      have some_ : handler ≠ none := by
        change (command.handler builder.handlers).map runs ≠ none
        rw [found]
        exact Option.some_ne_none _
      exact ⟨pass, ⟨command.typ, rest⟩, bytes, "", passed, rfl, once, read, announced,
        ⟨fun differs => absurd rfl differs, fun none_ => absurd none_ some_⟩,
        fun differs => absurd rfl differs⟩

/-- The application has a handler for stop commands, which succeeds. -/
theorem answered_stop :
    let text := oneText (.object [])
    let builder := { Builder.SessionBuilder.default with handlers := ⟨none, none, some 7⟩ }
    let stream : RemoteStream := ⟨[[0, 0, 0, 5, 123], [125]], .fin⟩
    acceptPass (wireJson text) true stream.reads = some .again ∧
      ∃ typed bytes announced,
        heartbeatPass stream.reads = some (.ok (some typed)) ∧ typed.typ = stopReq ∧
        (∀ result, (∃ passes, handleReq text Stop.record (some fun _ => none) (.ok ()) passes
          typed.inner = some result) ↔ result = .ok bytes) ∧
        readResp text bytes = some ⟨none⟩ ∧
        Command.stop.unsupported (builder.authExtra ⟨"linux", "x86_64"⟩) = some announced ∧
        (announced ≠ "" ↔ some (fun _ : Stop => (none : Option String)) = none) ∧
        (announced ≠ "" → answer (some fun _ : Stop => none) ⟨⟩ = ⟨some announced⟩) := by
  intro text builder stream
  have writes : Writes (Command.stop.record : Record Int _ _) (⟨⟩ : Stop) [] :=
    ⟨List.nodup_nil, [], rfl, List.Perm.refl _⟩
  have announces : Announces text Command.stop.typ [] stream.reads :=
    ⟨by decide +kernel, parse_oneText _⟩
  refine answered .stop builder ⟨"linux", "x86_64"⟩ (fun _ _ => none)
    (lawful_oneText (by decide +kernel)) writes announces ?_ true
  intro json written
  cases written
  exact parse_oneText _

end Command

end Agent

end NgrokRust
