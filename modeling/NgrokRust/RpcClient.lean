import NgrokRust.AwaitedReads
import NgrokRust.EndpointWire
import NgrokRust.IncomingStreams
import NgrokRust.MuxadoFrame
import NgrokRust.ProtoErrors

/-!
# Remote procedure calls

The agent opens a stream for each request, writes the request and reads the answer to its
end.  The answer is an error if it has a text for one, and otherwise the response.

The typed readers of the JSON parser are parameters, as far as bytes are concerned.  On
texts they read the tree of the text.
-/

namespace NgrokRust

open JsonTrees Proto

namespace Rpc

variable {Req Resp : Type}

/-- What is written and read for one type of request: `to_string` of the request, and
`from_slice` for its response and for the text of an error. -/
structure RpcRequest (Req Resp : Type) where
  typ : Nat
  toString : Req → Except String String
  response : List UInt8 → Option Resp
  error : List UInt8 → Option String

/-- `Receive` has an error of a read, of which a muxado stream has none. -/
inductive RpcError where
  | openStream (error : Muxado.Error)
  | transport (error : Muxado.Error)
  | send
  | receive (error : Empty)
  | invalidResponse
  | response (resp : ErrResp)
deriving DecidableEq

/-- What becomes of the stream of a call: whether it is opened, whether everything can be
written to it, and what is read from it. -/
structure RpcStream where
  opened : Except Muxado.Error Unit
  writable : Bool
  answer : Agent.StreamReads

/-- What `rpc` makes of a whole answer. -/
def decode (call : RpcRequest Req Resp) (buf : List UInt8) : Except RpcError Resp :=
  let okResp : Except RpcError Resp :=
    match call.response buf with
    | some resp => .ok resp
    | none => .error .invalidResponse
  match call.error buf with
  | some error => if error ≠ "" then .error (.response (.ofStr error)) else okResp
  | none => okResp

/-- `rpc`, which reads the answer in at most so many passes into a buffer with so much room. -/
def rpc (room : List UInt8 → Nat) (passes : Nat) (call : RpcRequest Req Resp)
    (stream : RpcStream) (req : Req) : Option (Except RpcError Resp) :=
  match stream.opened with
  | .error error => some (.error (.openStream error))
  | .ok () =>
      match call.toString req with
      | .error _ => some (.error .send)
      | .ok _ =>
          if stream.writable then
            match Arrivals.readToEnd room passes [] stream.answer with
            | none => none
            | some (.error error) => some (.error (.receive error))
            | some (.ok buf) => some (decode call buf)
          else some (.error .send)

/-- What `rpc` writes to its stream: the type of the stream and the request. -/
def request (call : RpcRequest Req Resp) (stream : RpcStream) (req : Req) :
    Option (List UInt8) :=
  match stream.opened, call.toString req with
  | .ok (), .ok string => some (BigEndian.putU32 call.typ ++ utf8 string)
  | _, _ => none

def Returns (room : List UInt8 → Nat) (call : RpcRequest Req Resp) (stream : RpcStream)
    (req : Req) (result : Except RpcError Resp) : Prop :=
  ∃ passes, rpc room passes call stream req = some result

def Sent (call : RpcRequest Req Resp) (stream : RpcStream) (req : Req) : Prop :=
  stream.writable = true ∧ ∃ bytes, request call stream req = some bytes

section Results

variable {room : List UInt8 → Nat} {call : RpcRequest Req Resp} {stream : RpcStream} {req : Req}
  {result : Except RpcError Resp}

theorem opened_of_sent (sent : Sent call stream req) : stream.opened = .ok () := by
  obtain ⟨-, bytes, written⟩ := sent
  unfold request at written
  split at written
  · assumption
  · cases written

theorem rpc_of_sent (sent : Sent call stream req) (passes : Nat) :
    rpc room passes call stream req =
      (Arrivals.readToEnd room passes [] stream.answer).map fun read =>
        match read with
        | .error error => .error (.receive error)
        | .ok buf => decode call buf := by
  obtain ⟨writable, bytes, written⟩ := sent
  unfold request at written
  split at written
  · rename_i opened string
    simp only [rpc, opened, string, writable, if_true]
    split <;> rename_i read <;> rw [read] <;> rfl
  · cases written

/-- A request that is sent returns exactly if its answer ends, and all that counts are the
bytes of the answer, however they arrive and into whatever buffers they are read. -/
theorem returns_of_sent (positive : ∀ buf, 0 < room buf) (sent : Sent call stream req) :
    Returns room call stream req result ↔
      stream.answer.ending = .eof ∧ result = decode call stream.answer.symbols := by
  constructor
  · rintro ⟨passes, returned⟩
    rw [rpc_of_sent sent, Option.map_eq_some_iff] at returned
    obtain ⟨read, answered, rfl⟩ := returned
    have settled := (Arrivals.exists_readToEnd_iff positive).1 ⟨passes, answered⟩
    unfold Arrivals.whole at settled
    cases ending : stream.answer.ending with
    | silence =>
        rw [ending] at settled
        cases settled
    | failed error => exact error.elim
    | eof =>
        rw [ending] at settled
        cases settled
        exact ⟨rfl, rfl⟩
  · rintro ⟨ending, rfl⟩
    have whole : Arrivals.whole stream.answer = some (.ok stream.answer.symbols) := by
      rw [Arrivals.whole, ending]
    obtain ⟨passes, read⟩ := (Arrivals.exists_readToEnd_iff positive).2 whole
    exact ⟨passes, by rw [rpc_of_sent sent, read]; rfl⟩

theorem rpc_of_not_sent (opened : stream.opened = .ok ()) (notSent : ¬ Sent call stream req)
    (passes : Nat) : rpc room passes call stream req = some (.error .send) := by
  cases string : call.toString req with
  | error error => simp only [rpc, opened, string]
  | ok string =>
      have unwritable : stream.writable ≠ true := fun writable =>
        notSent ⟨writable, _, by rw [request, opened, string]⟩
      simp only [rpc, opened, string, unwritable]
      rfl

/-- A call that asks for nothing, and gets nothing but an object. -/
def emptyCall : RpcRequest Unit Unit where
  typ := 0
  toString _ := .ok "\x7b\x7d"
  response buf := if buf = [0x7b, 0x7d] then some () else none
  error _ := none

end Results

section Exchange

variable {Num : Type} (text : Text Num)

/-- The record `ErrResp` that `rpc` looks for in an answer. -/
def errorRecord : Record Num String String :=
  Record.start id
    |>.field "Error" id (.required .string)

/-- The call writes and reads these formats. -/
structure Speaks (requests : Format Num Req) (responses : Format Num Resp)
    (call : RpcRequest Req Resp) : Prop where
  typ_lt : call.typ < 2 ^ 32
  toString_eq : ∀ req, call.toString req = (requests.write req).map text.print
  response_utf8 : ∀ string, call.response (utf8 string) =
    (text.parse string).bind responses.read
  error_utf8 : ∀ string, call.error (utf8 string) =
    (text.parse string).bind errorRecord.format.read

/-- What is read from a stream at the other end: its type, and a value in the rest. -/
def receive {α : Type} (format : Format Num α) (stream : Agent.StreamReads) : Option (Nat × α) :=
  match Agent.acceptTyped stream with
  | some (.ok typed) =>
      ((String.fromUTF8? ⟨typed.inner.symbols.toArray⟩).bind text.parse).bind fun json =>
        (format.read json).map (typed.typ, ·)
  | _ => none

/-- The texts of a value are parsed to what they were printed from. -/
def Prints {α : Type} (format : Format Num α) (value : α) : Prop :=
  ∀ json, format.write value = .ok json → text.parse (text.print json) = some json

/-- The answer is one object. -/
structure Answer (stream : RpcStream) (entries : List (String × Json Num)) : Prop where
  ending : stream.answer.ending = .eof
  symbols : stream.answer.symbols = utf8 (text.print (.object entries))
  parses : text.parse (text.print (.object entries)) = some (.object entries)

/-- The object has the members of a record, in any order and perhaps with others, and none
for an error. -/
def Responds (record : Record Num Resp Resp) (resp : Resp) (entries : List (String × Json Num)) :
    Prop :=
  "Error" ∉ entries.map Prod.fst ∧ ∃ written, record.format.write resp = .ok (.object written) ∧
    (entries.filter (·.1 ∈ record.keys)).Perm (written.filter (·.1 ∈ record.keys))

def Reports (error : String) (entries : List (String × Json Num)) : Prop :=
  error ≠ "" ∧ entries.filter (·.1 ∈ ["Error"]) = [("Error", .string error)]

variable {text} {requests : Format Num Req} {record : Record Num Resp Resp}
  {call : RpcRequest Req Resp} {stream : RpcStream} {req received : Req}

theorem acceptTyped_putU32 {typ : Nat} (small : typ < 2 ^ 32) {bytes : List UInt8}
    {arrivals : Agent.StreamReads} (symbols : arrivals.symbols = BigEndian.putU32 typ ++ bytes) :
    ∃ rest, Agent.acceptTyped arrivals = some (.ok ⟨typ, rest⟩) ∧ rest.symbols = bytes := by
  have enough : 4 ≤ arrivals.symbols.length := by
    rw [symbols, List.length_append, BigEndian.putU32_length]
    exact Nat.le_add_right _ _
  obtain ⟨rest, answered, left, -⟩ := Arrivals.readExact_of_symbols enough
  have first : arrivals.symbols.take 4 = BigEndian.putU32 typ := by
    rw [symbols]
    rfl
  have typRead := BigEndian.getU32_putU32 small []
  rw [List.append_nil] at typRead
  refine ⟨rest, ?_, ?_⟩
  · rw [Agent.acceptTyped, answered, first]
    simp only [typRead]
  · rw [left, symbols]
    rfl

theorem receive_request (speaks : Speaks text requests record.format call)
    (opened : stream.opened = .ok ()) (carried : requests.Carries req received)
    (prints : Prints text requests req) :
    ∃ bytes, request call stream req = some bytes ∧
      ∀ arrivals : Agent.StreamReads, arrivals.symbols = bytes →
        receive text requests arrivals = some (call.typ, received) := by
  obtain ⟨json, written, back⟩ := carried
  refine ⟨BigEndian.putU32 call.typ ++ utf8 (text.print json), ?_, ?_⟩
  · simp only [request, opened, speaks.toString_eq, written, Except.map]
  · intro arrivals symbols
    obtain ⟨rest, typed, left⟩ := acceptTyped_putU32 speaks.typ_lt symbols
    simp only [receive, typed, left, fromUTF8?_utf8, Option.bind_some, prints json written, back,
      Option.map_some]

theorem sent_of_carries (speaks : Speaks text requests record.format call)
    (opened : stream.opened = .ok ()) (writable : stream.writable = true)
    (carried : requests.Carries req received) : Sent call stream req := by
  obtain ⟨json, written, -⟩ := carried
  refine ⟨writable, BigEndian.putU32 call.typ ++ utf8 (text.print json), ?_⟩
  simp only [request, opened, speaks.toString_eq, written, Except.map]

/-- What an object has for an error is read whatever else it has. -/
theorem read_errorRecord {entries : List (String × Json Num)} :
    ("Error" ∉ entries.map Prod.fst → errorRecord.format.read (.object entries) = none) ∧
      ∀ error, entries.filter (·.1 ∈ ["Error"]) = [("Error", .string error)] →
        errorRecord.format.read (.object entries) = some error := by
  have alike : ∀ others : List (String × Json Num),
      (entries.filter (·.1 ∈ ["Error"])).Perm (others.filter (·.1 ∈ ["Error"])) →
        errorRecord.format.read (.object entries) = errorRecord.format.read (.object others) :=
    fun _ perm => Record.read_object_perm perm
  constructor
  · intro absent
    have nothing : entries.filter (·.1 ∈ ["Error"]) = [] := by
      rw [List.filter_eq_nil_iff]
      intro entry mem known
      have named : entry.1 = "Error" := by simpa using known
      exact absent (named ▸ List.mem_map_of_mem mem)
    rw [alike [] (by rw [nothing]; exact List.Perm.refl _)]
    rfl
  · intro error member
    rw [alike [("Error", .string error)] (by rw [member]; exact List.Perm.refl _)]
    rfl

/-- The agent receives the response, in whatever pieces. -/
theorem returns_response {room : List UInt8 → Nat} (positive : ∀ buf, 0 < room buf)
    (speaks : Speaks text requests record.format call) (sent : Sent call stream req)
    {resp read : Resp} (carried : record.format.Carries resp read)
    {entries : List (String × Json Num)} (answer : Answer text stream entries)
    (responds : Responds record resp entries) {result : Except RpcError Resp} :
    Returns room call stream req result ↔ result = .ok read := by
  obtain ⟨absent, written, writes, perm⟩ := responds
  obtain ⟨json, writesSame, back⟩ := carried
  obtain rfl : .object written = json := Except.ok.inj (writes.symm.trans writesSame)
  have noError : call.error stream.answer.symbols = none := by
    rw [answer.symbols, speaks.error_utf8, answer.parses, Option.bind_some,
      read_errorRecord.1 absent]
  have response : call.response stream.answer.symbols = some read := by
    rw [answer.symbols, speaks.response_utf8, answer.parses, Option.bind_some,
      Record.read_object_perm perm, back]
  have decoded : decode call stream.answer.symbols = .ok read := by
    simp only [decode, noError, response]
  simp [returns_of_sent positive sent, answer.ending, decoded]

theorem returns_error {room : List UInt8 → Nat} (positive : ∀ buf, 0 < room buf)
    (speaks : Speaks text requests record.format call) (sent : Sent call stream req)
    {error : String} {entries : List (String × Json Num)} (answer : Answer text stream entries)
    (reports : Reports error entries) {result : Except RpcError Resp} :
    Returns room call stream req result ↔ result = .error (.response (.ofStr error)) := by
  obtain ⟨nonempty, member⟩ := reports
  have found : call.error stream.answer.symbols = some error := by
    rw [answer.symbols, speaks.error_utf8, answer.parses, Option.bind_some,
      read_errorRecord.2 error member]
  have decoded : decode call stream.answer.symbols = .error (.response (.ofStr error)) := by
    simp only [decode, found, nonempty, ne_eq, not_false_iff, if_true]
  simp [returns_of_sent positive sent, answer.ending, decoded]

/-- The other end receives the request as `received`, and whatever response or error it
answers with is the result of the call. -/
def Exchanges (text : Text Num) (room : List UInt8 → Nat) (requests : Format Num Req)
    (record : Record Num Resp Resp) (call : RpcRequest Req Resp) (stream : RpcStream)
    (req received : Req) : Prop :=
  (∃ bytes, request call stream req = some bytes ∧
      ∀ arrivals : Agent.StreamReads, arrivals.symbols = bytes →
        receive text requests arrivals = some (call.typ, received)) ∧
    ∀ entries, Answer text stream entries → ∀ result,
      (∀ resp read, record.format.Carries resp read → Responds record resp entries →
        (Returns room call stream req result ↔ result = .ok read)) ∧
      ∀ error, Reports error entries →
        (Returns room call stream req result ↔ result = .error (.response (.ofStr error)))

theorem exchanges_of_carries {room : List UInt8 → Nat} (positive : ∀ buf, 0 < room buf)
    (speaks : Speaks text requests record.format call) (opened : stream.opened = .ok ())
    (writable : stream.writable = true) (carried : requests.Carries req received)
    (prints : Prints text requests req) :
    Exchanges text room requests record call stream req received := by
  have sent := sent_of_carries speaks opened writable carried
  refine ⟨receive_request speaks opened carried prints, ?_⟩
  intro entries answer result
  refine ⟨?_, ?_⟩
  · intro resp read carried responds
    exact returns_response positive speaks sent carried answer responds
  · intro error reports
    exact returns_error positive speaks sent answer reports

end Exchange

def authReq : Nat := 0
def bindReq : Nat := 1
def unbindReq : Nat := 2
def bindLabeledReq : Nat := 7

section Calls

variable {Num : Type} (text : Text Num)

/-- `rpc_req!`, with the JSON of texts for the JSON of bytes. -/
def rpcReq (requests : Format Num Req) (responses : Format Num Resp) (typ : Nat) :
    RpcRequest Req Resp where
  typ := typ
  toString req := (requests.write req).map text.print
  response bytes :=
    ((String.fromUTF8? ⟨bytes.toArray⟩).bind text.parse).bind responses.read
  error bytes :=
    ((String.fromUTF8? ⟨bytes.toArray⟩).bind text.parse).bind errorRecord.format.read

theorem speaks_rpcReq {text : Text Num} {requests : Format Num Req} {responses : Format Num Resp}
    {typ : Nat} (small : typ < 2 ^ 32) :
    Speaks text requests responses (rpcReq text requests responses typ) where
  typ_lt := small
  toString_eq _ := rfl
  response_utf8 string := by simp only [rpcReq, fromUTF8?_utf8, Option.bind_some]
  error_utf8 string := by simp only [rpcReq, fromUTF8?_utf8, Option.bind_some]

end Calls

end Rpc

end NgrokRust
