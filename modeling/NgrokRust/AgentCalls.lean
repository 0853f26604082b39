import NgrokRust.RpcClient
import NgrokRust.UserAgent

/-!
# The calls of the agent

The agent authenticates, binds endpoints and labeled tunnels, and unbinds them.  In each
call the server reads what the agent has set, and the agent gets what the server answers.
-/

namespace NgrokRust

open JsonTrees Proto

namespace Rpc

variable {Num Float64 : Type}

def protoVersion : List String := ["3", "2"]

/-- The request of `auth`. -/
def authRequest (id : String) (extra : AuthExtra) : Auth where
  version := protoVersion
  clientId := id
  extra := extra

/-- The request of `listen`. -/
def listenRequest (protocol : String) (opts : BindOpts Float64) (extra : BindExtra)
    (id forwardsTo forwardsProto : String) : Bind (BindOpts Float64) where
  clientId := id
  proto := protocol
  forwardsTo := forwardsTo
  forwardsProto := forwardsProto
  opts := opts
  extra := extra

/-- The request of `listen_label`. -/
def listenLabelRequest (labels : List (String × String))
    (metadata forwardsTo forwardsProto : String) : StartTunnelWithLabel where
  labels := labels
  forwardsTo := forwardsTo
  forwardsProto := forwardsProto
  metadata := metadata

/-- The request of `unlisten`. -/
def unlistenRequest (id : String) : Unbind := ⟨id⟩

/-- What `connect_inner` authenticates with. -/
def builderRequest (builder : Builder.SessionBuilder) (platform : Builder.Platform) : Auth :=
  authRequest (builder.id.getD "") (builder.authExtra platform)

variable {formats : Formats Num Float64} {text : Text Num} {room : List UInt8 → Nat}
  {stream : RpcStream}

/-- The intervals of a builder are numbers of an `i64`. -/
theorem isI64_getD {nanos : Option Builder.Nanos} {default : Nat} (small : default < 2 ^ 63) :
    IsI64 ((nanos.map Subtype.val).getD default : Nat) := by
  have fits : (nanos.map Subtype.val).getD default < 2 ^ 63 := by
    cases nanos with
    | none => exact small
    | some nanos => exact nanos.property
  constructor
  · omega
  · exact_mod_cast fits

/-- The builder that the session keeps after `connect_inner`. -/
def authenticated (builder : Builder.SessionBuilder) (resp : AuthResp) :
    Builder.SessionBuilder :=
  { builder with
    cookie := resp.extra.cookie.map SecretString.text
    id := some resp.clientId }

/-- What the session sends after these responses, each to the request before. -/
def nextRequest (builder : Builder.SessionBuilder) (platform : Builder.Platform)
    (responses : List AuthResp) : Auth :=
  builderRequest (responses.foldl authenticated builder) platform

/-- After any responses the request is that of the first attempt, with the identity that the
last response gave. -/
theorem nextRequest_eq (builder : Builder.SessionBuilder) (platform : Builder.Platform)
    (responses : List AuthResp) :
    nextRequest builder platform responses =
      match responses.getLast? with
      | none => builderRequest builder platform
      | some resp =>
          { builderRequest builder platform with
            clientId := resp.clientId
            extra :=
              { builder.authExtra platform with
                cookie := ⟨(resp.extra.cookie.map SecretString.text).getD ""⟩ } } := by
  induction responses generalizing builder with
  | nil => rfl
  | cons resp responses ih =>
      rw [nextRequest, List.foldl_cons]
      refine (ih (authenticated builder resp)).trans ?_
      rw [List.getLast?_cons]
      cases responses.getLast? <;> rfl

theorem nextRequest_carries (lawful : formats.Lawful) (builder : Builder.SessionBuilder)
    (platform : Builder.Platform) (responses : List AuthResp) :
    (Auth.record formats).format.Carries (nextRequest builder platform responses)
      (nextRequest builder platform responses) :=
  Auth.carries lawful (isI64_getD (by decide)) (isI64_getD (by decide))

/-- Every attempt to authenticate: after any number of responses the server reads the
request of the first attempt, with the identity that the last response gave, and the agent
gets the response that the server writes. -/
theorem auth_exchange (lawful : formats.Lawful) (positive : ∀ buf, 0 < room buf)
    {call : RpcRequest Auth AuthResp}
    (speaks : Speaks text (Auth.record formats).format (AuthResp.record formats).format call)
    (opened : stream.opened = .ok ()) (writable : stream.writable = true)
    (builder : Builder.SessionBuilder) (platform : Builder.Platform) (responses : List AuthResp)
    (prints : Prints text (Auth.record formats).format
      (nextRequest builder platform responses)) :
    Exchanges text room (Auth.record formats).format (AuthResp.record formats) call stream
        (nextRequest builder platform responses)
        (match responses.getLast? with
        | none => builderRequest builder platform
        | some resp =>
            { builderRequest builder platform with
              clientId := resp.clientId
              extra :=
                { builder.authExtra platform with
                  cookie := ⟨(resp.extra.cookie.map SecretString.text).getD ""⟩ } }) ∧
      ∀ resp : AuthResp, (∀ seconds ∈ resp.extra.sessionDuration, IsI64 seconds) →
        ∀ entries, Answer text stream entries →
          Responds (AuthResp.record formats) resp entries → ∀ result,
            Returns room call stream (nextRequest builder platform responses) result ↔
              result = .ok resp := by
  have carried := nextRequest_carries lawful builder platform responses
  have exchanges := exchanges_of_carries positive speaks opened writable carried prints
  refine ⟨?_, fun resp duration entries answer responds result =>
    (exchanges.2 entries answer result).1 resp resp (AuthResp.carries lawful duration) responds⟩
  rw [← nextRequest_eq]
  exact exchanges

theorem label_exchange (positive : ∀ buf, 0 < room buf)
    (opened : stream.opened = .ok ()) (writable : stream.writable = true)
    {labels : List (String × String)} (distinct : (labels.map Prod.fst).Nodup)
    {metadata forwardsTo forwardsProto : String}
    (prints : Prints text StartTunnelWithLabel.record.format
      (listenLabelRequest labels metadata forwardsTo forwardsProto)) :
    Exchanges text room StartTunnelWithLabel.record.format StartTunnelWithLabelResp.record
      (rpcReq text StartTunnelWithLabel.record.format StartTunnelWithLabelResp.record.format
        bindLabeledReq) stream
      (listenLabelRequest labels metadata forwardsTo forwardsProto)
      (listenLabelRequest labels metadata forwardsTo forwardsProto) :=
  exchanges_of_carries positive (speaks_rpcReq (by decide)) opened writable
    (StartTunnelWithLabel.carries distinct) prints

theorem unbind_exchange (positive : ∀ buf, 0 < room buf) (opened : stream.opened = .ok ())
    (writable : stream.writable = true) {id : String}
    (prints : Prints text Unbind.record.format (unlistenRequest id)) :
    Exchanges text room Unbind.record.format UnbindResp.record
      (rpcReq text Unbind.record.format UnbindResp.record.format unbindReq) stream
      (unlistenRequest id) (unlistenRequest id) :=
  exchanges_of_carries positive (speaks_rpcReq (by decide)) opened writable Unbind.carries
    prints

/-- Options of the same variant. -/
def SameVariant : BindOpts Float64 → BindOpts Float64 → Prop
  | .http _, .http _ => True
  | .tcp _, .tcp _ => True
  | .tls _, .tls _ => True
  | _, _ => False

theorem formatLike_congr {like other : BindOpts Float64} (same : SameVariant like other) :
    BindOpts.formatLike formats text like = BindOpts.formatLike formats text other := by
  cases like with
  | http => cases other with
    | http => rfl
    | tcp | tls => cases same
  | tcp => cases other with
    | tcp => rfl
    | http | tls => cases same
  | tls => cases other with
    | tls => rfl
    | http | tcp => cases same

/-- A response is any that has options of the variant that was asked for. -/
def Binds (formats : Formats Num Float64) (text : Text Num) (room : List UInt8 → Nat)
    (call : RpcRequest (Bind (BindOpts Float64)) (BindResp (BindOpts Float64)))
    (stream : RpcStream) (req : Bind (BindOpts Float64)) : Prop :=
  ∀ resp : BindResp (BindOpts Float64), SameVariant req.opts resp.bindOpts →
    resp.bindOpts.Sendable formats → resp.bindOpts.Valid text →
    ∀ entries, Answer text stream entries →
      Responds (BindResp.record (BindOpts.formatLike formats text req.opts)) resp entries →
      ∀ result, Returns room call stream req result ↔
        result = .ok { resp with bindOpts := resp.bindOpts.onWire formats text }

theorem binds_of_exchanges (lawful : formats.Lawful) {req received : Bind (BindOpts Float64)}
    {call : RpcRequest (Bind (BindOpts Float64)) (BindResp (BindOpts Float64))}
    (exchanges : Exchanges text room (Bind.record (BindOpts.formatLike formats text req.opts)).format
      (BindResp.record (BindOpts.formatLike formats text req.opts)) call stream req received) :
    Binds formats text room call stream req := by
  intro resp same sendable valid entries answer responds result
  have opts := BindOpts.carries lawful sendable valid
  rw [← formatLike_congr same] at opts
  exact (exchanges.2 entries answer result).1 resp _ (BindResp.carries opts) responds

def answeredStream (json : Json Numeral) : RpcStream :=
  ⟨.ok (), true,
    ⟨[(utf8 (compact json)).take 7, [], (utf8 (compact json)).drop 7], .eof⟩⟩

theorem answer_answeredStream {jsons : List (Json Numeral)} {entries : List (String × Json Numeral)}
    (back : (textsOf jsons).ReadsBack (.object entries)) :
    Answer (textsOf jsons) (answeredStream (.object entries)) entries where
  ending := rfl
  symbols := by
    simp [answeredStream, Arrivals.symbols, textsOf]
  parses := back.parse_print

theorem prints_textsOf {α : Type} {jsons : List (Json Numeral)} {format : Format Numeral α}
    {value : α} {json : Json Numeral} (written : format.write value = .ok json)
    (back : (textsOf jsons).ReadsBack json) : Prints (textsOf jsons) format value := by
  intro other same
  obtain rfl : json = other := Except.ok.inj (written.symm.trans same)
  exact back.parse_print

theorem responds_of_reverse {Num Resp : Type} {record : Record Num Resp Resp} {resp : Resp}
    {entries written : List (String × Json Num)} (noError : "Error" ∉ entries.map Prod.fst)
    (writes : record.format.write resp = .ok (.object written))
    (order : entries.filter (·.1 ∈ record.keys) = (written.filter (·.1 ∈ record.keys)).reverse) :
    Responds record resp entries :=
  ⟨noError, written, writes, order ▸ List.reverse_perm _⟩

/-- An application with a token, metadata, an interval and a handler to be stopped by. -/
def shopBuilder : Builder.SessionBuilder :=
  { Builder.SessionBuilder.default with
    authtoken := some "token"
    metadata := some "shop"
    heartbeatInterval := some ⟨5 * 10 ^ 9, by decide⟩
    handlers := ⟨none, none, some 1⟩ }

def shopResponse (id cookie : String) : AuthResp :=
  ⟨"3", id, { (default : AuthRespExtra) with region := some "eu", cookie := some ⟨cookie⟩ }⟩

def shopAuthJson : Json Numeral :=
  .object [("Version", .array [.string "3", .string "2"]), ("ClientId", .string "second"),
    ("Extra", .object [("OS", .string "linux"), ("Arch", .string "x86_64"),
      ("AuthToken", .string "token"), ("Version", .string "0.19.0"), ("Hostname", .string ""),
      ("UserAgent", .string "ngrok-rust/0.19.0"), ("Metadata", .string "shop"),
      ("Cookie", .string "2"), ("HeartbeatInterval", .number (.whole 5000000000)),
      ("HeartbeatTolerance", .number (.whole 15000000000)),
      ("UpdateUnsupportedError", .string Builder.notImplemented),
      ("StopUnsupportedError", .string ""),
      ("RestartUnsupportedError", .string Builder.notImplemented), ("ProxyType", .string ""),
      ("MutualTLS", .bool false), ("ServiceRun", .bool false), ("ConfigVersion", .string ""),
      ("CustomInterface", .bool false), ("CustomCAs", .bool false),
      ("ClientType", .string "ngrok-rust")])]

/-- The server leaves members out, and writes one that the agent does not know. -/
def shopAnswer : List (String × Json Numeral) :=
  [("Extra", .object [("Version", .null), ("Region", .string "eu"), ("Cookie", .string "3"),
      ("AccountName", .null), ("SessionDuration", .null), ("PlanName", .null),
      ("Banner", .null)]),
    ("Motd", .string "hello"), ("ClientId", .string "third"), ("Version", .string "3")]

def shopTrees : List (Json Numeral) := [shopAuthJson, .object shopAnswer]

theorem shop_readsBack {json : Json Numeral} (mem : json ∈ shopTrees) :
    (textsOf shopTrees).ReadsBack json :=
  textsOf_readsBack (by decide +kernel) mem

theorem shop_written :
    (Auth.record decimals).format.write (nextRequest shopBuilder ⟨"linux", "x86_64"⟩
      [shopResponse "first" "1", shopResponse "second" "2"]) = .ok shopAuthJson := by
  rfl

/-- The third attempt has the id and the cookie of the second response, and the third response
arrives in three pieces. -/
theorem auth_exchange_third :
    let call := rpcReq (textsOf shopTrees) (Auth.record decimals).format
      (AuthResp.record decimals).format authReq
    let stream := answeredStream (.object shopAnswer)
    let request := nextRequest shopBuilder ⟨"linux", "x86_64"⟩
      [shopResponse "first" "1", shopResponse "second" "2"]
    Exchanges (textsOf shopTrees) (fun _ => 32) (Auth.record decimals).format
        (AuthResp.record decimals) call stream request
        { builderRequest shopBuilder ⟨"linux", "x86_64"⟩ with
          clientId := "second"
          extra := { shopBuilder.authExtra ⟨"linux", "x86_64"⟩ with cookie := ⟨"2"⟩ } } ∧
      Returns (fun _ => 32) call stream request (.ok (shopResponse "third" "3")) := by
  intro call stream request
  have speaks : Speaks (textsOf shopTrees) (Auth.record decimals).format
      (AuthResp.record decimals).format call := speaks_rpcReq (by decide)
  have prints : Prints (textsOf shopTrees) (Auth.record decimals).format request :=
    prints_textsOf shop_written (shop_readsBack (by simp [shopTrees]))
  have opened : stream.opened = .ok () := rfl
  have positive : ∀ buf : List UInt8, 0 < (fun _ => 32 : List UInt8 → Nat) buf :=
    fun _ => Nat.succ_pos 31
  have exchange := auth_exchange lawful_decimals positive speaks opened rfl shopBuilder
    ⟨"linux", "x86_64"⟩ [shopResponse "first" "1", shopResponse "second" "2"] prints
  have responds : Responds (AuthResp.record decimals) (shopResponse "third" "3") shopAnswer :=
    responds_of_reverse (by decide) rfl rfl
  refine ⟨exchange.1, (exchange.2 _ ?_ _ (answer_answeredStream ?_) responds _).2 rfl⟩
  · intro seconds set
    cases set
  · exact shop_readsBack (by simp [shopTrees])

def guardedResponse : BindResp (BindOpts Nat) :=
  ⟨"tunnel", "https://shop.example", "https",
    .http (guardedEndpoint (some (.string guardString))), ⟨⟨"token"⟩⟩⟩

/-- The policy is written as its text would be. -/
theorem guarded_written :
    (Bind.record (BindOpts.formatLike decimals (textsOf guardedTrees)
        (guardedRequest (textsOf guardedTrees)).opts)).format.write
      (guardedRequest (textsOf guardedTrees)) = .ok guardedJson := by
  have policy : (PolicyWrapper.format (textsOf guardedTrees)).write
      (.policy (guardPolicy.toProto (textsOf guardedTrees))) =
        (PolicyWrapper.format (textsOf guardedTrees)).write (.string guardString) := by
    simp only [PolicyWrapper.format, PolicyWrapper.serialize, serializePolicy,
      serialize_policy guard_carried]
    rfl
  have member : (Field.optional (PolicyWrapper.format (textsOf guardedTrees))).write
      (some (.policy (guardPolicy.toProto (textsOf guardedTrees)))) =
        (Field.optional (PolicyWrapper.format (textsOf guardedTrees))).write
          (some (.string guardString)) := congrArg (Except.map some) policy
  have endpoint : (HttpEndpoint.record decimals (textsOf guardedTrees)).write
      (guardedEndpoint (some (.policy (guardPolicy.toProto (textsOf guardedTrees))))) =
        (HttpEndpoint.record decimals (textsOf guardedTrees)).write
          (guardedEndpoint (some (.string guardString))) := Record.write_field_congr rfl member
  have opts : (BindOpts.formatLike decimals (textsOf guardedTrees)
      (guardedRequest (textsOf guardedTrees)).opts).write
        (guardedRequest (textsOf guardedTrees)).opts = .ok guardedOptsJson :=
    congrArg (Except.map fun fields => Json.object (Record.present fields)) endpoint
  have asText : (Bind.record (BindOpts.formatLike decimals (textsOf guardedTrees)
      (guardedRequest (textsOf guardedTrees)).opts)).write
        (guardedRequest (textsOf guardedTrees)) =
      (Bind.record (BindOpts.formatLike decimals (textsOf guardedTrees)
        (guardedRequest (textsOf guardedTrees)).opts)).write
          { guardedRequest (textsOf guardedTrees) with
            opts := .http (guardedEndpoint (some (.string guardString))) } :=
    Record.write_field_congr (Record.write_field_congr rfl (congrArg (Except.map some) opts)) rfl
  exact congrArg (Except.map fun fields => Json.object (Record.present fields)) asText

end Rpc

end NgrokRust
