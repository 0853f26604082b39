import NgrokRust.Base64Text
import NgrokRust.ProtoWire

/-!
# The JSON of the endpoints

A request to bind an endpoint carries the options of the application.  The options that
were left at their defaults are left out.  A policy becomes a string with JSON in it, and
it is the only option that may not be JSON at all.
-/

namespace NgrokRust

open JsonTrees

namespace Proto

variable {Num Float64 : Type}

section Records

variable (formats : Formats Num Float64) (text : Text Num)

def PolicyWrapper.deserialize (json : Json Num) : Option PolicyWrapper :=
  match Policy.deserialize text json with
  | some value => some (.policy value)
  | none => (readString json).map .string

def PolicyWrapper.format : Format Num PolicyWrapper :=
  ⟨PolicyWrapper.serialize text, PolicyWrapper.deserialize text⟩

def ProxyProto.toI64 : ProxyProto → Int
  | .none => 0
  | .v1 => 1
  | .v2 => 2

def ProxyProto.ofI64 (other : Int) : ProxyProto :=
  if other = 1 then .v1 else if other = 2 then .v2 else .none

def asI64 (number : Int) : Int := if number < 2 ^ 63 then number else number - 2 ^ 64

def ProxyProto.format : Format Num ProxyProto where
  write proto := .ok (.number (formats.ofInt proto.toI64))
  read
    | .number number => ((formats.toInt number).filter fun number =>
        IsI64 number ∨ IsU64 number).map fun number => ProxyProto.ofI64 (asI64 number)
    | _ => none

def Compression.record : Record Num Compression Compression := Record.start Compression.mk

def CircuitBreaker.record : Record Num (CircuitBreaker Float64) (CircuitBreaker Float64) :=
  Record.start CircuitBreaker.mk
    |>.field "error_threshold" (·.errorThreshold)
      (.skipping formats.isZero formats.zero formats.f64)

def BasicAuthCredential.record : Record Num BasicAuthCredential BasicAuthCredential :=
  Record.start BasicAuthCredential.mk
    |>.field "username" (·.username) (.required .string)
    |>.field "cleartext_password" (·.cleartextPassword) (.unlessDefault "" .string)
    |>.field "hashed_password" (·.hashedPassword) (.unlessDefault [] formats.base64bytes)

def BasicAuth.record : Record Num BasicAuth BasicAuth :=
  Record.start BasicAuth.mk
    |>.field "credentials" (·.credentials)
      (.unlessDefault [] (.array (BasicAuthCredential.record formats).format))

def IpRestriction.record : Record Num IpRestriction IpRestriction :=
  Record.start IpRestriction.mk
    |>.field "allow_cidrs" (·.allowCidrs) (.unlessDefault [] (.array .string))
    |>.field "deny_cidrs" (·.denyCidrs) (.unlessDefault [] (.array .string))

def Oauth.record : Record Num Oauth Oauth :=
  Record.start Oauth.mk
    |>.field "provider" (·.provider) (.required .string)
    |>.field "client_id" (·.clientId) (.unlessDefault "" .string)
    |>.field "client_secret" (·.clientSecret) (.unlessDefault ⟨""⟩ SecretString.format)
    |>.field "sealed_client_secret" (·.sealedClientSecret)
      (.unlessDefault [] formats.base64bytes)
    |>.field "allow_emails" (·.allowEmails) (.unlessDefault [] (.array .string))
    |>.field "allow_domains" (·.allowDomains) (.unlessDefault [] (.array .string))
    |>.field "scopes" (·.scopes) (.unlessDefault [] (.array .string))

def Oidc.record : Record Num Oidc Oidc :=
  Record.start Oidc.mk
    |>.field "issuer_url" (·.issuerUrl) (.required .string)
    |>.field "client_id" (·.clientId) (.unlessDefault "" .string)
    |>.field "client_secret" (·.clientSecret) (.unlessDefault ⟨""⟩ SecretString.format)
    |>.field "sealed_client_secret" (·.sealedClientSecret)
      (.unlessDefault [] formats.base64bytes)
    |>.field "allow_emails" (·.allowEmails) (.unlessDefault [] (.array .string))
    |>.field "allow_domains" (·.allowDomains) (.unlessDefault [] (.array .string))
    |>.field "scopes" (·.scopes) (.unlessDefault [] (.array .string))

def WebhookVerification.record : Record Num WebhookVerification WebhookVerification :=
  Record.start WebhookVerification.mk
    |>.field "provider" (·.provider) (.required .string)
    |>.field "secret" (·.secret) (.unlessDefault ⟨""⟩ SecretString.format)
    |>.field "sealed_secret" (·.sealedSecret) (.unlessDefault [] formats.base64bytes)

def MutualTls.record : Record Num MutualTls MutualTls :=
  Record.start MutualTls.mk
    |>.field "mutual_tls_ca" (·.mutualTlsCa) (.unlessDefault [] formats.base64bytes)

def Headers.record : Record Num Headers Headers :=
  Record.start Headers.mk
    |>.field "add" (·.add) (.unlessDefault [] (.array .string))
    |>.field "remove" (·.remove) (.unlessDefault [] (.array .string))
    |>.field "addParsed" (·.addParsed) (.unlessDefault [] (.map .string))

def WebsocketTcpConverter.record : Record Num WebsocketTcpConverter WebsocketTcpConverter :=
  Record.start WebsocketTcpConverter.mk

def UserAgentFilter.record : Record Num UserAgentFilter UserAgentFilter :=
  Record.start UserAgentFilter.mk
    |>.field "allow" (·.allow) (.unlessDefault [] (.array .string))
    |>.field "deny" (·.deny) (.unlessDefault [] (.array .string))

def TlsTermination.record : Record Num TlsTermination TlsTermination :=
  Record.start TlsTermination.mk
    |>.field "cert" (·.cert) (.unlessDefault [] formats.base64bytes)
    |>.field "key" (·.key) (.unlessDefault ⟨[]⟩ (SecretBytes.format formats))
    |>.field "sealed_key" (·.sealedKey) (.unlessDefault [] formats.base64bytes)

def HttpEndpoint.record : Record Num (HttpEndpoint Float64) (HttpEndpoint Float64) :=
  Record.start HttpEndpoint.mk
    |>.field "Domain" (·.domain) (.defaulting "" .string)
    |>.field "Hostname" (·.hostname) (.required .string)
    |>.field "Auth" (·.auth) (.required .string)
    |>.field "Subdomain" (·.subdomain) (.required .string)
    |>.field "HostHeaderRewrite" (·.hostHeaderRewrite) (.required .bool)
    |>.field "LocalUrlScheme" (·.localUrlScheme) (.optional .string)
    |>.field "ProxyProto" (·.proxyProto) (.required (ProxyProto.format formats))
    |>.field "Compression" (·.compression) (.optional Compression.record.format)
    |>.field "CircuitBreaker" (·.circuitBreaker)
      (.optional (CircuitBreaker.record formats).format)
    |>.field "IPRestriction" (·.ipRestriction) (.optional IpRestriction.record.format)
    |>.field "BasicAuth" (·.basicAuth) (.optional (BasicAuth.record formats).format)
    |>.field "OAuth" (·.oauth) (.optional (Oauth.record formats).format)
    |>.field "OIDC" (·.oidc) (.optional (Oidc.record formats).format)
    |>.field "WebhookVerification" (·.webhookVerification)
      (.optional (WebhookVerification.record formats).format)
    |>.field "MutualTLSCA" (·.mutualTlsCa) (.optional (MutualTls.record formats).format)
    |>.field "RequestHeaders" (·.requestHeaders)
      (.defaulting none (.option Headers.record.format))
    |>.field "ResponseHeaders" (·.responseHeaders)
      (.defaulting none (.option Headers.record.format))
    |>.field "WebsocketTCPConverter" (·.websocketTcpConverter)
      (.optional WebsocketTcpConverter.record.format)
    |>.field "UserAgentFilter" (·.userAgentFilter) (.optional UserAgentFilter.record.format)
    |>.field "TrafficPolicy" (·.trafficPolicy) (.optional (PolicyWrapper.format text))

def TcpEndpoint.record : Record Num TcpEndpoint TcpEndpoint :=
  Record.start TcpEndpoint.mk
    |>.field "Addr" (·.addr) (.required .string)
    |>.field "ProxyProto" (·.proxyProto) (.required (ProxyProto.format formats))
    |>.field "IPRestriction" (·.ipRestriction) (.optional IpRestriction.record.format)
    |>.field "TrafficPolicy" (·.trafficPolicy) (.optional (PolicyWrapper.format text))

def TlsEndpoint.record : Record Num TlsEndpoint TlsEndpoint :=
  Record.start TlsEndpoint.mk
    |>.field "Domain" (·.domain) (.defaulting "" .string)
    |>.field "Hostname" (·.hostname) (.required .string)
    |>.field "Subdomain" (·.subdomain) (.required .string)
    |>.field "ProxyProto" (·.proxyProto) (.required (ProxyProto.format formats))
    |>.field "MutualTLSAtAgent" (·.mutualTlsAtAgent) (.required .bool)
    |>.field "MutualTLSAtEdge" (·.mutualTlsAtEdge)
      (.optional (MutualTls.record formats).format)
    |>.field "TLSTermination" (·.tlsTermination)
      (.optional (TlsTermination.record formats).format)
    |>.field "IPRestriction" (·.ipRestriction) (.optional IpRestriction.record.format)
    |>.field "TrafficPolicy" (·.trafficPolicy) (.optional (PolicyWrapper.format text))

/-- Options are written as what their variant wraps. They are read as the variant that is
asked for and wrapped in it again. -/
def BindOpts.formatLike (like : BindOpts Float64) : Format Num (BindOpts Float64) where
  write
    | .http endpoint => (HttpEndpoint.record formats text).format.write endpoint
    | .tcp endpoint => (TcpEndpoint.record formats text).format.write endpoint
    | .tls endpoint => (TlsEndpoint.record formats text).format.write endpoint
  read json :=
    match like with
    | .http _ => ((HttpEndpoint.record formats text).format.read json).map .http
    | .tcp _ => ((TcpEndpoint.record formats text).format.read json).map .tcp
    | .tls _ => ((TlsEndpoint.record formats text).format.read json).map .tls

def BindExtra.record : Record Num BindExtra BindExtra :=
  Record.start BindExtra.mk
    |>.field "Token" (·.token) (.required SecretString.format)
    |>.field "IPPolicyRef" (·.ipPolicyRef) (.required .string)
    |>.field "Metadata" (·.metadata) (.required .string)
    |>.field "Bindings" (·.bindings) (.required (.array .string))
    |>.field "PoolingEnabled" (·.poolingEnabled) (.required .bool)

def Bind.record {T : Type} (opts : Format Num T) : Record Num (Bind T) (Bind T) :=
  Record.start Bind.mk
    |>.field "Id" (·.clientId) (.required .string)
    |>.field "Proto" (·.proto) (.required .string)
    |>.field "ForwardsTo" (·.forwardsTo) (.required .string)
    |>.field "ForwardsProto" (·.forwardsProto) (.required .string)
    |>.field "Opts" (·.opts) (.required opts)
    |>.field "Extra" (·.extra) (.required BindExtra.record.format)

structure BindRespExtra where
  token : SecretString

structure BindResp (T : Type) where
  clientId : String
  url : String
  proto : String
  bindOpts : T
  extra : BindRespExtra

def BindRespExtra.record : Record Num BindRespExtra BindRespExtra :=
  Record.start BindRespExtra.mk
    |>.field "Token" (·.token) (.required SecretString.format)

def BindResp.record {T : Type} (opts : Format Num T) : Record Num (BindResp T) (BindResp T) :=
  Record.start BindResp.mk
    |>.field "Id" (·.clientId) (.required .string)
    |>.field "URL" (·.url) (.required .string)
    |>.field "Proto" (·.proto) (.required .string)
    |>.field "Opts" (·.bindOpts) (.required opts)
    |>.field "Extra" (·.extra) (.required BindRespExtra.record.format)

end Records

section Received

variable (formats : Formats Num Float64) (text : Text Num)

/-- A policy is received as the text that it is sent in. -/
def PolicyWrapper.onWire : PolicyWrapper → PolicyWrapper
  | .policy value =>
      match Policy.serialize text value with
      | .ok json => .string (text.print json)
      | .error _ => .policy value
  | .string value => .string value

/-- Both zeros are left out, and received as the one that is the default. -/
def CircuitBreaker.onWire (breaker : CircuitBreaker Float64) : CircuitBreaker Float64 where
  errorThreshold :=
    if formats.isZero breaker.errorThreshold then formats.zero else breaker.errorThreshold

def HttpEndpoint.onWire (endpoint : HttpEndpoint Float64) : HttpEndpoint Float64 :=
  { endpoint with
    circuitBreaker := endpoint.circuitBreaker.map (CircuitBreaker.onWire formats)
    trafficPolicy := endpoint.trafficPolicy.map (PolicyWrapper.onWire text) }

def TcpEndpoint.onWire (endpoint : TcpEndpoint) : TcpEndpoint :=
  { endpoint with trafficPolicy := endpoint.trafficPolicy.map (PolicyWrapper.onWire text) }

def TlsEndpoint.onWire (endpoint : TlsEndpoint) : TlsEndpoint :=
  { endpoint with trafficPolicy := endpoint.trafficPolicy.map (PolicyWrapper.onWire text) }

def BindOpts.onWire : BindOpts Float64 → BindOpts Float64
  | .http endpoint => .http (endpoint.onWire formats text)
  | .tcp endpoint => .tcp (endpoint.onWire text)
  | .tls endpoint => .tls (endpoint.onWire text)

/-- The configurations of a policy are JSON. -/
def Policy.Valid (policy : Policy) : Prop :=
  ∀ rule ∈ policy.inbound ++ policy.outbound, ∀ action ∈ rule.actions,
    action.config ≠ [] → (fromSlice text action.config).isSome

def PolicyWrapper.Valid (wrapper : PolicyWrapper) : Prop :=
  ∀ value, wrapper = .policy value → value.Valid text

def BindOpts.trafficPolicy : BindOpts Float64 → Option PolicyWrapper
  | .http endpoint => endpoint.trafficPolicy
  | .tcp endpoint => endpoint.trafficPolicy
  | .tls endpoint => endpoint.trafficPolicy

def BindOpts.Valid (opts : BindOpts Float64) : Prop :=
  ∀ wrapper ∈ opts.trafficPolicy, wrapper.Valid text

/-- The thresholds are finite, and no header is set twice. -/
structure HttpEndpoint.Sendable (endpoint : HttpEndpoint Float64) : Prop where
  circuitBreaker : ∀ breaker ∈ endpoint.circuitBreaker,
    formats.isZero breaker.errorThreshold = false → formats.ReadsBack breaker.errorThreshold
  requestHeaders : ∀ headers ∈ endpoint.requestHeaders, (headers.addParsed.map Prod.fst).Nodup
  responseHeaders : ∀ headers ∈ endpoint.responseHeaders, (headers.addParsed.map Prod.fst).Nodup

def BindOpts.Sendable : BindOpts Float64 → Prop
  | .http endpoint => endpoint.Sendable formats
  | .tcp _ => True
  | .tls _ => True

end Received

section ThereAndBack

variable {formats : Formats Num Float64} {text : Text Num}

theorem ProxyProto.carries (lawful : formats.Lawful) {proto : ProxyProto} :
    (ProxyProto.format formats).Carries proto proto := by
  have small : IsI64 proto.toI64 := by cases proto <;> decide
  refine ⟨_, rfl, ?_⟩
  simp only [ProxyProto.format, lawful.toInt_ofInt _ small]
  cases proto <;> rfl

theorem Compression.carries {compression : Compression} :
    (Compression.record : Record Num _ _).format.Carries compression compression :=
  Record.Carries.format List.Pairwise.nil (Record.Carries.start _ _)

theorem WebsocketTcpConverter.carries {converter : WebsocketTcpConverter} :
    (WebsocketTcpConverter.record : Record Num _ _).format.Carries converter converter :=
  Record.Carries.format List.Pairwise.nil (Record.Carries.start _ _)

theorem CircuitBreaker.carries {breaker : CircuitBreaker Float64}
    (finite : formats.isZero breaker.errorThreshold = false →
      formats.ReadsBack breaker.errorThreshold) :
    (CircuitBreaker.record formats).format.Carries breaker (breaker.onWire formats) := by
  refine Record.Carries.format (List.pairwise_singleton _ _) <|
    (Record.Carries.start _ _)
      |>.field (.skipping ?_ ?_)
  · exact fun zero => if_pos zero
  · intro nonzero
    rw [nonzero]
    exact Formats.f64_carries (finite nonzero)

theorem unlessEmpty_carries {strings : List String} :
    (Field.unlessDefault [] (.array .string) : Field Num _).Carries strings strings :=
  .unlessDefault fun _ => strings_carries

theorem unlessEmptyString_carries {string : String} :
    (Field.unlessDefault "" .string : Field Num _).Carries string string :=
  .unlessDefault fun _ => Format.string_carries

theorem unlessEmptySecret_carries {secret : SecretString} :
    (Field.unlessDefault ⟨""⟩ SecretString.format : Field Num _).Carries secret secret :=
  .unlessDefault fun _ => SecretString.carries

theorem unlessEmptyBytes_carries (lawful : formats.Lawful) {bytes : List UInt8} :
    (Field.unlessDefault [] formats.base64bytes).Carries bytes bytes :=
  .unlessDefault fun _ => Formats.base64bytes_carries lawful bytes

theorem BasicAuthCredential.carries (lawful : formats.Lawful) {credential : BasicAuthCredential} :
    (BasicAuthCredential.record formats).format.Carries credential credential :=
  Record.Carries.format (by simp [BasicAuthCredential.record]) <|
    (Record.Carries.start _ _)
      |>.field Format.string_carries.required
      |>.field unlessEmptyString_carries
      |>.field (unlessEmptyBytes_carries lawful)

theorem BasicAuth.carries (lawful : formats.Lawful) {basicAuth : BasicAuth} :
    (BasicAuth.record formats).format.Carries basicAuth basicAuth :=
  Record.Carries.format (by simp [BasicAuth.record]) <|
    (Record.Carries.start _ _)
      |>.field (.unlessDefault fun _ => .arrayOf fun _ _ => BasicAuthCredential.carries lawful)

theorem IpRestriction.carries {restriction : IpRestriction} :
    (IpRestriction.record : Record Num _ _).format.Carries restriction restriction :=
  Record.Carries.format (by simp [IpRestriction.record]) <|
    (Record.Carries.start _ _)
      |>.field unlessEmpty_carries
      |>.field unlessEmpty_carries

theorem Oauth.carries (lawful : formats.Lawful) {oauth : Oauth} :
    (Oauth.record formats).format.Carries oauth oauth :=
  Record.Carries.format (by simp [Oauth.record]) <|
    (Record.Carries.start _ _)
      |>.field Format.string_carries.required
      |>.field unlessEmptyString_carries
      |>.field unlessEmptySecret_carries
      |>.field (unlessEmptyBytes_carries lawful)
      |>.field unlessEmpty_carries
      |>.field unlessEmpty_carries
      |>.field unlessEmpty_carries

theorem Oidc.carries (lawful : formats.Lawful) {oidc : Oidc} :
    (Oidc.record formats).format.Carries oidc oidc :=
  Record.Carries.format (by simp [Oidc.record]) <|
    (Record.Carries.start _ _)
      |>.field Format.string_carries.required
      |>.field unlessEmptyString_carries
      |>.field unlessEmptySecret_carries
      |>.field (unlessEmptyBytes_carries lawful)
      |>.field unlessEmpty_carries
      |>.field unlessEmpty_carries
      |>.field unlessEmpty_carries

theorem WebhookVerification.carries (lawful : formats.Lawful)
    {verification : WebhookVerification} :
    (WebhookVerification.record formats).format.Carries verification verification :=
  Record.Carries.format (by simp [WebhookVerification.record]) <|
    (Record.Carries.start _ _)
      |>.field Format.string_carries.required
      |>.field unlessEmptySecret_carries
      |>.field (unlessEmptyBytes_carries lawful)

theorem MutualTls.carries (lawful : formats.Lawful) {mutualTls : MutualTls} :
    (MutualTls.record formats).format.Carries mutualTls mutualTls :=
  Record.Carries.format (by simp [MutualTls.record]) <|
    (Record.Carries.start _ _)
      |>.field (unlessEmptyBytes_carries lawful)

theorem Headers.carries {headers : Headers}
    (distinct : (headers.addParsed.map Prod.fst).Nodup) :
    (Headers.record : Record Num _ _).format.Carries headers headers :=
  Record.Carries.format (by simp [Headers.record]) <|
    (Record.Carries.start _ _)
      |>.field unlessEmpty_carries
      |>.field unlessEmpty_carries
      |>.field (.unlessDefault fun _ =>
        Format.map_carries distinct fun _ _ => Format.string_carries)

theorem UserAgentFilter.carries {userAgentFilter : UserAgentFilter} :
    (UserAgentFilter.record : Record Num _ _).format.Carries userAgentFilter userAgentFilter :=
  Record.Carries.format (by simp [UserAgentFilter.record]) <|
    (Record.Carries.start _ _)
      |>.field unlessEmpty_carries
      |>.field unlessEmpty_carries

theorem TlsTermination.carries (lawful : formats.Lawful) {termination : TlsTermination} :
    (TlsTermination.record formats).format.Carries termination termination :=
  Record.Carries.format (by simp [TlsTermination.record]) <|
    (Record.Carries.start _ _)
      |>.field (unlessEmptyBytes_carries lawful)
      |>.field (.unlessDefault fun _ => SecretBytes.carries lawful)
      |>.field (unlessEmptyBytes_carries lawful)

theorem mapM_ok_iff {α β : Type} {write : α → Except String β} {items : List α} :
    (∃ written, items.mapM write = .ok written) ↔
      ∀ item ∈ items, ∃ written, write item = .ok written := by
  induction items with
  | nil => simp [pure, Except.pure]
  | cons item items ih =>
      rw [List.forall_mem_cons, ← ih, List.mapM_cons]
      cases write item with
      | error error => simp [bind, Except.bind]
      | ok first =>
          cases items.mapM write with
          | error error => simp [bind, Except.bind]
          | ok rest => simp [bind, Except.bind, pure, Except.pure]

theorem map_ok_iff {α β : Type} {change : α → β} {result : Except String α} :
    (∃ written, result.map change = .ok written) ↔ ∃ written, result = .ok written := by
  cases result <;> simp [Except.map]

theorem Action.serialize_ok_iff {action : Action} :
    (∃ json, Action.serialize text action = .ok json) ↔
      (action.config ≠ [] → (fromSlice text action.config).isSome) := by
  unfold Action.serialize
  split
  · rename_i empty
    simp [empty]
  · rename_i nonempty
    rw [map_ok_iff, serializeConfig]
    cases fromSlice text action.config <;> simp [nonempty]

theorem Rule.serialize_ok_iff {rule : Rule} :
    (∃ json, Rule.serialize text rule = .ok json) ↔
      ∀ action ∈ rule.actions, action.config ≠ [] → (fromSlice text action.config).isSome := by
  rw [Rule.serialize, map_ok_iff, mapM_ok_iff]
  exact forall₂_congr fun _ _ => Action.serialize_ok_iff

theorem Policy.serialize_ok_iff {policy : Policy} :
    (∃ json, Policy.serialize text policy = .ok json) ↔ policy.Valid text := by
  have rules : ∀ rules : List Rule, (∃ jsons, rules.mapM (Rule.serialize text) = .ok jsons) ↔
      ∀ rule ∈ rules, ∀ action ∈ rule.actions, action.config ≠ [] →
        (fromSlice text action.config).isSome :=
    fun rules => mapM_ok_iff.trans (forall₂_congr fun _ _ => Rule.serialize_ok_iff)
  rw [Policy.Valid, List.forall_mem_append, ← rules, ← rules, Policy.serialize]
  cases policy.inbound.mapM (Rule.serialize text) with
  | error error => simp [bind, Except.bind]
  | ok inbound =>
      cases policy.outbound.mapM (Rule.serialize text) with
      | error error => simp [bind, Except.bind]
      | ok outbound => simp [bind, Except.bind, pure, Except.pure]

theorem PolicyWrapper.serialize_ok_iff {wrapper : PolicyWrapper} :
    (∃ json, PolicyWrapper.serialize text wrapper = .ok json) ↔ wrapper.Valid text := by
  cases wrapper with
  | string value => simp [PolicyWrapper.serialize, PolicyWrapper.Valid]
  | policy value =>
      simp only [PolicyWrapper.Valid, PolicyWrapper.policy.injEq, forall_eq',
        ← Policy.serialize_ok_iff, PolicyWrapper.serialize, serializePolicy]
      cases Policy.serialize text value <;> simp

theorem PolicyWrapper.carries {wrapper : PolicyWrapper} (valid : wrapper.Valid text) :
    (PolicyWrapper.format text).Carries wrapper (wrapper.onWire text) := by
  cases wrapper with
  | string value => exact ⟨.string value, rfl, rfl⟩
  | policy value =>
      obtain ⟨json, written⟩ := Policy.serialize_ok_iff.2 (valid value rfl)
      refine ⟨.string (text.print json), ?_, ?_⟩
      · simp only [PolicyWrapper.format, PolicyWrapper.serialize, serializePolicy, written]
      · simp only [PolicyWrapper.onWire, written]
        rfl

theorem trafficPolicy_carries {policy : Option PolicyWrapper}
    (valid : ∀ wrapper ∈ policy, wrapper.Valid text) :
    (Field.optional (PolicyWrapper.format text)).Carries policy
      (policy.map (PolicyWrapper.onWire text)) := by
  refine .optional rfl ?_
  cases policy with
  | none => exact .none
  | some wrapper => exact .some (PolicyWrapper.carries (valid wrapper rfl))

theorem headers_carries {headers : Option Headers}
    (distinct : ∀ item ∈ headers, (item.addParsed.map Prod.fst).Nodup) :
    (Headers.record.format.option : Format Num _).Carries headers headers := by
  refine .option rfl ?_
  cases headers with
  | none => exact .none
  | some headers => exact .some (Headers.carries (distinct headers rfl))

theorem circuitBreaker_carries {breaker : Option (CircuitBreaker Float64)}
    (finite : ∀ item ∈ breaker, formats.isZero item.errorThreshold = false →
      formats.ReadsBack item.errorThreshold) :
    (Field.optional (CircuitBreaker.record formats).format).Carries breaker
      (breaker.map (CircuitBreaker.onWire formats)) := by
  refine .optional rfl ?_
  cases breaker with
  | none => exact .none
  | some breaker => exact .some (CircuitBreaker.carries (finite breaker rfl))

theorem HttpEndpoint.distinct :
    (HttpEndpoint.record formats text).keys.Nodup := by
  simp only [HttpEndpoint.record, Record.keys_field, Record.keys_start, List.nil_append,
    List.cons_append]
  decide

theorem HttpEndpoint.carries (lawful : formats.Lawful) {endpoint : HttpEndpoint Float64}
    (sendable : endpoint.Sendable formats)
    (valid : ∀ wrapper ∈ endpoint.trafficPolicy, wrapper.Valid text) :
    (HttpEndpoint.record formats text).format.Carries endpoint
      (endpoint.onWire formats text) :=
  Record.Carries.format HttpEndpoint.distinct <|
    (Record.Carries.start _ _)
      |>.field Format.string_carries.defaulting
      |>.field Format.string_carries.required
      |>.field Format.string_carries.required
      |>.field Format.string_carries.required
      |>.field Format.bool_carries.required
      |>.field optionString_carries
      |>.field (ProxyProto.carries lawful).required
      |>.field (.optionalOf rfl fun _ _ => Compression.carries)
      |>.field (circuitBreaker_carries sendable.circuitBreaker)
      |>.field (.optionalOf rfl fun _ _ => IpRestriction.carries)
      |>.field (.optionalOf rfl fun _ _ => BasicAuth.carries lawful)
      |>.field (.optionalOf rfl fun _ _ => Oauth.carries lawful)
      |>.field (.optionalOf rfl fun _ _ => Oidc.carries lawful)
      |>.field (.optionalOf rfl fun _ _ => WebhookVerification.carries lawful)
      |>.field (.optionalOf rfl fun _ _ => MutualTls.carries lawful)
      |>.field (headers_carries sendable.requestHeaders).defaulting
      |>.field (headers_carries sendable.responseHeaders).defaulting
      |>.field (.optionalOf rfl fun _ _ => WebsocketTcpConverter.carries)
      |>.field (.optionalOf rfl fun _ _ => UserAgentFilter.carries)
      |>.field (trafficPolicy_carries valid)

theorem TcpEndpoint.carries (lawful : formats.Lawful) {endpoint : TcpEndpoint}
    (valid : ∀ wrapper ∈ endpoint.trafficPolicy, wrapper.Valid text) :
    (TcpEndpoint.record formats text).format.Carries endpoint (endpoint.onWire text) :=
  Record.Carries.format (by simp [TcpEndpoint.record]) <|
    (Record.Carries.start _ _)
      |>.field Format.string_carries.required
      |>.field (ProxyProto.carries lawful).required
      |>.field (.optionalOf rfl fun _ _ => IpRestriction.carries)
      |>.field (trafficPolicy_carries valid)

theorem TlsEndpoint.carries (lawful : formats.Lawful) {endpoint : TlsEndpoint}
    (valid : ∀ wrapper ∈ endpoint.trafficPolicy, wrapper.Valid text) :
    (TlsEndpoint.record formats text).format.Carries endpoint (endpoint.onWire text) :=
  Record.Carries.format (by simp [TlsEndpoint.record]) <|
    (Record.Carries.start _ _)
      |>.field Format.string_carries.defaulting
      |>.field Format.string_carries.required
      |>.field Format.string_carries.required
      |>.field (ProxyProto.carries lawful).required
      |>.field Format.bool_carries.required
      |>.field (.optionalOf rfl fun _ _ => MutualTls.carries lawful)
      |>.field (.optionalOf rfl fun _ _ => TlsTermination.carries lawful)
      |>.field (.optionalOf rfl fun _ _ => IpRestriction.carries)
      |>.field (trafficPolicy_carries valid)

/-- Only the policy can keep the options from being written. -/
theorem BindOpts.write_ok {opts like : BindOpts Float64}
    (written : ∃ json, (BindOpts.formatLike formats text like).write opts = .ok json) :
    opts.Valid text := by
  intro wrapper mem
  apply PolicyWrapper.serialize_ok_iff.1
  cases opts with
  | http endpoint =>
      obtain ⟨-, policy⟩ := Record.write_field_ok (Record.write_format_ok written)
      exact Field.write_optional_ok policy wrapper mem
  | tcp endpoint =>
      obtain ⟨-, policy⟩ := Record.write_field_ok (Record.write_format_ok written)
      exact Field.write_optional_ok policy wrapper mem
  | tls endpoint =>
      obtain ⟨-, policy⟩ := Record.write_field_ok (Record.write_format_ok written)
      exact Field.write_optional_ok policy wrapper mem

theorem BindOpts.carries (lawful : formats.Lawful) {opts : BindOpts Float64}
    (sendable : opts.Sendable formats) (valid : opts.Valid text) :
    (BindOpts.formatLike formats text opts).Carries opts (opts.onWire formats text) := by
  cases opts with
  | http endpoint =>
      obtain ⟨json, written, back⟩ := HttpEndpoint.carries lawful sendable valid
      exact ⟨json, written, congrArg (Option.map BindOpts.http) back⟩
  | tcp endpoint =>
      obtain ⟨json, written, back⟩ := TcpEndpoint.carries lawful valid
      exact ⟨json, written, congrArg (Option.map BindOpts.tcp) back⟩
  | tls endpoint =>
      obtain ⟨json, written, back⟩ := TlsEndpoint.carries lawful valid
      exact ⟨json, written, congrArg (Option.map BindOpts.tls) back⟩

theorem BindExtra.carries {extra : BindExtra} :
    (BindExtra.record : Record Num _ _).format.Carries extra extra :=
  Record.Carries.format (by simp [BindExtra.record]) <|
    (Record.Carries.start _ _)
      |>.field SecretString.carries.required
      |>.field Format.string_carries.required
      |>.field Format.string_carries.required
      |>.field strings_carries.required
      |>.field Format.bool_carries.required

theorem BindRespExtra.carries {extra : BindRespExtra} :
    (BindRespExtra.record : Record Num _ _).format.Carries extra extra :=
  Record.Carries.format (by simp [BindRespExtra.record]) <|
    (Record.Carries.start _ _)
      |>.field SecretString.carries.required

theorem Bind.carries {T : Type} {format : Format Num T} {bind : Bind T} {opts : T}
    (carried : format.Carries bind.opts opts) :
    (Bind.record format).format.Carries bind { bind with opts := opts } :=
  Record.Carries.format (by simp [Bind.record]) <|
    (Record.Carries.start _ _)
      |>.field Format.string_carries.required
      |>.field Format.string_carries.required
      |>.field Format.string_carries.required
      |>.field Format.string_carries.required
      |>.field carried.required
      |>.field BindExtra.carries.required

theorem BindResp.carries {T : Type} {format : Format Num T} {resp : BindResp T} {opts : T}
    (carried : format.Carries resp.bindOpts opts) :
    (BindResp.record format).format.Carries resp { resp with bindOpts := opts } :=
  Record.Carries.format (by simp [BindResp.record]) <|
    (Record.Carries.start _ _)
      |>.field Format.string_carries.required
      |>.field Format.string_carries.required
      |>.field Format.string_carries.required
      |>.field carried.required
      |>.field BindRespExtra.carries.required

/-- A request to bind is written exactly if the configurations in its policy are JSON, and
what the server reads has every option that was set, and a text for the policy. -/
theorem bindRequest_carries (lawful : formats.Lawful) {bind : Bind (BindOpts Float64)}
    (sendable : bind.opts.Sendable formats) :
    ((∃ json, (Bind.record (BindOpts.formatLike formats text bind.opts)).format.write bind =
        .ok json) ↔ bind.opts.Valid text) ∧
    (bind.opts.Valid text →
      (Bind.record (BindOpts.formatLike formats text bind.opts)).format.Carries bind
        { bind with opts := bind.opts.onWire formats text }) := by
  have carried := fun valid : bind.opts.Valid text =>
    Bind.carries (BindOpts.carries lawful sendable valid)
  refine ⟨⟨?_, ?_⟩, carried⟩
  · intro written
    obtain ⟨before, -⟩ := Record.write_field_ok (Record.write_format_ok written)
    obtain ⟨-, opts⟩ := Record.write_field_ok before
    exact BindOpts.write_ok (Field.write_required_ok opts)
  · intro valid
    obtain ⟨json, written, -⟩ := carried valid
    exact ⟨json, written⟩

end ThereAndBack

mutual

/-- The text of a tree without blanks, for printable characters. -/
def compact [ToString Num] : Json Num → String
  | .null => "null"
  | .bool bool => if bool then "true" else "false"
  | .number number => toString number
  | .string string => quoted string
  | .array items => "[" ++ ",".intercalate (compactItems items) ++ "]"
  | .object entries => "\x7b" ++ ",".intercalate (compactEntries entries) ++ "\x7d"

def compactItems [ToString Num] : List (Json Num) → List String
  | [] => []
  | item :: items => compact item :: compactItems items

def compactEntries [ToString Num] : List (String × Json Num) → List String
  | [] => []
  | (key, json) :: entries => (quoted key ++ ":" ++ compact json) :: compactEntries entries

end

def textsOf [ToString Num] (jsons : List (Json Num)) : Text Num where
  print := compact
  parse string := jsons.find? fun json => compact json = string

theorem parse_textsOf [ToString Num] {jsons : List (Json Num)}
    (distinct : (jsons.map compact).Nodup) {json : Json Num} (mem : json ∈ jsons) :
    (textsOf jsons).parse (compact json) = some json := by
  change (jsons.find? fun other => compact other = compact json) = some json
  induction jsons with
  | nil => cases mem
  | cons first jsons ih =>
      rw [List.map_cons, List.nodup_cons] at distinct
      obtain ⟨new, others⟩ := distinct
      rw [List.find?_cons]
      obtain rfl | later := List.mem_cons.1 mem
      · simp
      · have differs : compact first ≠ compact json :=
          fun same => new (same ▸ List.mem_map_of_mem later)
        rw [decide_eq_false differs]
        exact ih others later

theorem textsOf_readsBack [ToString Num] {jsons : List (Json Num)}
    (distinct : ("" :: jsons.map compact).Nodup) {json : Json Num} (mem : json ∈ jsons) :
    (textsOf jsons).ReadsBack json where
  parse_print := parse_textsOf (List.nodup_cons.1 distinct).2 mem
  print_ne_empty empty := (List.nodup_cons.1 distinct).1 (empty ▸ List.mem_map_of_mem mem)

def oneText (json : Json Int) : Text Int where
  print := compact
  parse string := if string = compact json then some json else none

theorem parse_oneText (json : Json Int) :
    (oneText json).parse ((oneText json).print json) = some json := if_pos rfl

def wholeNumbers : Formats Int Unit where
  ofInt number := number
  toInt number := some number
  ofFloat _ := none
  toFloat _ := none
  zero := ()
  isZero _ := true
  encode := Base64Text.encode
  decode := Base64Text.decode

/-- Whole numbers, and floats with one digit behind the point. -/
inductive Numeral where
  | whole (number : Int)
  | tenths (number : Nat)

instance : ToString Numeral where
  toString
    | .whole number => toString number
    | .tenths number => toString (number / 10) ++ "." ++ toString (number % 10)

def decimals : Formats Numeral Nat where
  ofInt := .whole
  toInt
    | .whole number => some number
    | .tenths _ => none
  ofFloat number := some (.tenths number)
  toFloat
    | .whole number => if 0 ≤ number then some (10 * number.toNat) else none
    | .tenths number => some number
  zero := 0
  isZero number := number = 0
  encode := Base64Text.encode
  decode := Base64Text.decode

theorem lawful_decimals : decimals.Lawful where
  toInt_ofInt _ _ := rfl
  decodes := Base64Text.decode_of_encode
  isZero_zero := rfl

theorem readsBack_decimals (number : Nat) : decimals.ReadsBack number := ⟨_, rfl, rfl⟩

def guardConfig : Json Numeral := .object [("status_code", .number (.whole 404))]

def guardPolicy : Policies.Policy Numeral where
  inbound := [⟨"guard", ["req.url.path == '/admin'"], [⟨"deny", some guardConfig.toValue⟩]⟩]
  outbound := []

def guardString : String := compact guardPolicy.json

/-- An endpoint with a threshold and many more options, and a policy. -/
def guardedEndpoint (trafficPolicy : Option PolicyWrapper) : HttpEndpoint Nat where
  domain := "shop.example"
  hostname := ""
  auth := ""
  subdomain := ""
  hostHeaderRewrite := false
  localUrlScheme := none
  proxyProto := .v2
  compression := some ⟨⟩
  circuitBreaker := some ⟨5⟩
  ipRestriction := some ⟨["10.0.0.0/8"], []⟩
  basicAuth := some ⟨[⟨"user", "password", []⟩]⟩
  oauth := none
  oidc := none
  webhookVerification := some ⟨"github", ⟨"secret"⟩, []⟩
  mutualTlsCa := some ⟨[0x2d, 0x0a]⟩
  requestHeaders := some ⟨["a:value"], ["b"], []⟩
  responseHeaders := none
  websocketTcpConverter := none
  userAgentFilter := some ⟨[], ["curl.*"]⟩
  trafficPolicy := trafficPolicy

def guardedRequest (text : Text Numeral) : Bind (BindOpts Nat) where
  clientId := ""
  proto := "https"
  forwardsTo := "app"
  forwardsProto := ""
  opts := .http (guardedEndpoint (some (.policy (guardPolicy.toProto text))))
  extra := ⟨⟨""⟩, "", "shop", ["public"], true⟩

def guardedOptsJson : Json Numeral :=
  .object [("Domain", .string "shop.example"), ("Hostname", .string ""), ("Auth", .string ""),
    ("Subdomain", .string ""), ("HostHeaderRewrite", .bool false), ("LocalUrlScheme", .null),
    ("ProxyProto", .number (.whole 2)), ("Compression", .object []),
    ("CircuitBreaker", .object [("error_threshold", .number (.tenths 5))]),
    ("IPRestriction", .object [("allow_cidrs", .array [.string "10.0.0.0/8"])]),
    ("BasicAuth", .object [("credentials", .array [.object [("username", .string "user"),
      ("cleartext_password", .string "password")]])]),
    ("OAuth", .null), ("OIDC", .null),
    ("WebhookVerification", .object [("provider", .string "github"),
      ("secret", .string "secret")]),
    ("MutualTLSCA", .object [("mutual_tls_ca", .string "LQo=")]),
    ("RequestHeaders", .object [("add", .array [.string "a:value"]),
      ("remove", .array [.string "b"])]),
    ("ResponseHeaders", .null), ("WebsocketTCPConverter", .null),
    ("UserAgentFilter", .object [("deny", .array [.string "curl.*"])]),
    ("TrafficPolicy", .string guardString)]

def guardedJson : Json Numeral :=
  .object [("Id", .string ""), ("Proto", .string "https"), ("ForwardsTo", .string "app"),
    ("ForwardsProto", .string ""), ("Opts", guardedOptsJson),
    ("Extra", .object [("Token", .string ""), ("IPPolicyRef", .string ""),
      ("Metadata", .string "shop"), ("Bindings", .array [.string "public"]),
      ("PoolingEnabled", .bool true)])]

def guardedAnswer : List (String × Json Numeral) :=
  [("Extra", .object [("Token", .string "token")]), ("Opts", guardedOptsJson),
    ("Region", .string "eu"), ("Proto", .string "https"), ("URL", .string "https://shop.example"),
    ("Id", .string "tunnel")]

/-- What goes over the wire, and the trees that are printed into it. -/
def guardedTrees : List (Json Numeral) :=
  [guardConfig, guardPolicy.json, .string guardString, guardedJson, .object guardedAnswer]

theorem guarded_readsBack {json : Json Numeral} (mem : json ∈ guardedTrees) :
    (textsOf guardedTrees).ReadsBack json :=
  textsOf_readsBack (by decide +kernel) mem

theorem guard_carried : Carried (textsOf guardedTrees) guardPolicy where
  configs rule mem action among config set := by
    obtain rfl : rule = _ := List.mem_singleton.1 mem
    obtain rfl : action = _ := List.mem_singleton.1 among
    cases set
    exact guarded_readsBack (.head _)
  whole := guarded_readsBack (by simp [guardedTrees])
  wire := guarded_readsBack (by simp [guardedTrees, guardString, textsOf])

theorem guarded_sendable {trafficPolicy : Option PolicyWrapper} :
    (BindOpts.http (guardedEndpoint trafficPolicy)).Sendable decimals where
  circuitBreaker breaker _ _ := readsBack_decimals breaker.errorThreshold
  requestHeaders headers set := by
    cases set
    exact List.nodup_nil
  responseHeaders headers set := by cases set

theorem guarded_valid :
    (guardedRequest (textsOf guardedTrees)).opts.Valid (textsOf guardedTrees) := by
  intro wrapper set
  cases set
  intro policy same
  cases same
  exact Policy.serialize_ok_iff.1 ⟨_, serialize_policy guard_carried⟩

theorem guarded_onWire :
    (guardedRequest (textsOf guardedTrees)).opts.onWire decimals (textsOf guardedTrees) =
      .http (guardedEndpoint (some (.string guardString))) := by
  have printed : PolicyWrapper.onWire (textsOf guardedTrees)
      (.policy (guardPolicy.toProto (textsOf guardedTrees))) = .string guardString := by
    simp only [PolicyWrapper.onWire, serialize_policy guard_carried]
    rfl
  exact congrArg (fun wrapper => BindOpts.http (guardedEndpoint (some wrapper))) printed

/-- The threshold and the other options arrive, and the policy as a text. -/
theorem bindRequest_carries_guarded :
    (Bind.record (BindOpts.formatLike decimals (textsOf guardedTrees)
        (guardedRequest (textsOf guardedTrees)).opts)).format.Carries
      (guardedRequest (textsOf guardedTrees))
      { guardedRequest (textsOf guardedTrees) with
        opts := .http (guardedEndpoint (some (.string guardString))) } := by
  rw [← guarded_onWire]
  exact (bindRequest_carries lawful_decimals guarded_sendable).2 guarded_valid

end Proto

end NgrokRust
