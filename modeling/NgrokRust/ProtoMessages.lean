import NgrokRust.DebugText

/-!
# The messages of the agent and their debug text

The requests that open a session and bind an endpoint, with all their fields, and the
text that their derived `Debug` writes.  A `HashMap` is the list of its entries in the
order in which it yields them, and the type of the 64-bit floats is a parameter.
-/

namespace NgrokRust

namespace Proto

open DebugText DebugText.Debug

section Secrets

structure SecretBytes where
  bytes : List UInt8
  deriving DecidableEq, Inhabited

structure SecretString where
  text : String
  deriving DecidableEq, Inhabited

def mask : List Char := "********".toList

variable {Float64 : Type*}

instance : Debug Float64 SecretBytes := ⟨fun _ _ => mask⟩

instance : Debug Float64 SecretString := ⟨fun _ _ => mask⟩

@[simp] theorem fmt_secretBytes (f : Formatter Float64) (secret : SecretBytes) :
    fmt f secret = mask := rfl

@[simp] theorem fmt_secretString (f : Formatter Float64) (secret : SecretString) :
    fmt f secret = mask := rfl

end Secrets

section Sessions

structure AuthExtra where
  os : String
  arch : String
  authToken : SecretString
  version : String
  hostname : String
  userAgent : String
  metadata : String
  cookie : SecretString
  heartbeatInterval : Int
  heartbeatTolerance : Int
  updateUnsupportedError : Option String
  stopUnsupportedError : Option String
  restartUnsupportedError : Option String
  proxyType : String
  mutualTls : Bool
  serviceRun : Bool
  configVersion : String
  customInterface : Bool
  customCas : Bool
  clientType : String

structure Auth where
  version : List String
  clientId : String
  extra : AuthExtra

structure BindExtra where
  token : SecretString
  ipPolicyRef : String
  metadata : String
  bindings : List String
  poolingEnabled : Bool
  deriving Inhabited

structure Bind (T : Type*) where
  clientId : String
  proto : String
  forwardsTo : String
  forwardsProto : String
  opts : T
  extra : BindExtra

end Sessions

section Endpoints

inductive ProxyProto
  | none
  | v1
  | v2
  deriving DecidableEq, Inhabited

structure Compression where

structure CircuitBreaker (Float64 : Type*) where
  errorThreshold : Float64

structure BasicAuthCredential where
  username : String
  cleartextPassword : String
  hashedPassword : List UInt8
  deriving DecidableEq

structure BasicAuth where
  credentials : List BasicAuthCredential
  deriving DecidableEq

structure IpRestriction where
  allowCidrs : List String
  denyCidrs : List String

structure Oauth where
  provider : String
  clientId : String
  clientSecret : SecretString
  sealedClientSecret : List UInt8
  allowEmails : List String
  allowDomains : List String
  scopes : List String

structure Oidc where
  issuerUrl : String
  clientId : String
  clientSecret : SecretString
  sealedClientSecret : List UInt8
  allowEmails : List String
  allowDomains : List String
  scopes : List String

structure WebhookVerification where
  provider : String
  secret : SecretString
  sealedSecret : List UInt8

structure MutualTls where
  mutualTlsCa : List UInt8

structure Headers where
  add : List String
  remove : List String
  addParsed : List (String × String)

structure WebsocketTcpConverter where

structure UserAgentFilter where
  allow : List String
  deny : List String

structure Action where
  type_ : String
  config : List UInt8

structure Rule where
  name : String
  expressions : List String
  actions : List Action

structure Policy where
  inbound : List Rule
  outbound : List Rule

inductive PolicyWrapper
  | policy (value : Policy)
  | string (value : String)

structure TlsTermination where
  cert : List UInt8
  key : SecretBytes
  sealedKey : List UInt8

structure HttpEndpoint (Float64 : Type*) where
  domain : String
  hostname : String
  auth : String
  subdomain : String
  hostHeaderRewrite : Bool
  localUrlScheme : Option String
  proxyProto : ProxyProto
  compression : Option Compression
  circuitBreaker : Option (CircuitBreaker Float64)
  ipRestriction : Option IpRestriction
  basicAuth : Option BasicAuth
  oauth : Option Oauth
  oidc : Option Oidc
  webhookVerification : Option WebhookVerification
  mutualTlsCa : Option MutualTls
  requestHeaders : Option Headers
  responseHeaders : Option Headers
  websocketTcpConverter : Option WebsocketTcpConverter
  userAgentFilter : Option UserAgentFilter
  trafficPolicy : Option PolicyWrapper
  deriving Inhabited

structure TcpEndpoint where
  addr : String
  proxyProto : ProxyProto
  ipRestriction : Option IpRestriction
  trafficPolicy : Option PolicyWrapper

structure TlsEndpoint where
  domain : String
  hostname : String
  subdomain : String
  proxyProto : ProxyProto
  mutualTlsAtAgent : Bool
  mutualTlsAtEdge : Option MutualTls
  tlsTermination : Option TlsTermination
  ipRestriction : Option IpRestriction
  trafficPolicy : Option PolicyWrapper

inductive BindOpts (Float64 : Type*)
  | http (endpoint : HttpEndpoint Float64)
  | tcp (endpoint : TcpEndpoint)
  | tls (endpoint : TlsEndpoint)

end Endpoints

section DebugInstances

variable {Float64 : Type*}

instance : Debug Float64 AuthExtra := ⟨fun f x => debugStruct "AuthExtra" [
  ("os", fmt f x.os), ("arch", fmt f x.arch), ("auth_token", fmt f x.authToken),
  ("version", fmt f x.version), ("hostname", fmt f x.hostname),
  ("user_agent", fmt f x.userAgent), ("metadata", fmt f x.metadata),
  ("cookie", fmt f x.cookie), ("heartbeat_interval", fmt f x.heartbeatInterval),
  ("heartbeat_tolerance", fmt f x.heartbeatTolerance),
  ("update_unsupported_error", fmt f x.updateUnsupportedError),
  ("stop_unsupported_error", fmt f x.stopUnsupportedError),
  ("restart_unsupported_error", fmt f x.restartUnsupportedError),
  ("proxy_type", fmt f x.proxyType), ("mutual_tls", fmt f x.mutualTls),
  ("service_run", fmt f x.serviceRun), ("config_version", fmt f x.configVersion),
  ("custom_interface", fmt f x.customInterface), ("custom_cas", fmt f x.customCas),
  ("client_type", fmt f x.clientType)]⟩

instance : Debug Float64 Auth := ⟨fun f x => debugStruct "Auth" [
  ("version", fmt f x.version), ("client_id", fmt f x.clientId), ("extra", fmt f x.extra)]⟩

instance : Debug Float64 BindExtra := ⟨fun f x => debugStruct "BindExtra" [
  ("token", fmt f x.token), ("ip_policy_ref", fmt f x.ipPolicyRef),
  ("metadata", fmt f x.metadata), ("bindings", fmt f x.bindings),
  ("pooling_enabled", fmt f x.poolingEnabled)]⟩

instance {T : Type*} [Debug Float64 T] : Debug Float64 (Bind T) :=
  ⟨fun f x => debugStruct "Bind" [
    ("client_id", fmt f x.clientId), ("proto", fmt f x.proto),
    ("forwards_to", fmt f x.forwardsTo), ("forwards_proto", fmt f x.forwardsProto),
    ("opts", fmt f x.opts), ("extra", fmt f x.extra)]⟩

instance : Debug Float64 ProxyProto := ⟨fun _ x => match x with
  | .none => "None".toList
  | .v1 => "V1".toList
  | .v2 => "V2".toList⟩

instance : Debug Float64 Compression := ⟨fun _ _ => debugStruct "Compression" []⟩

instance : Debug Float64 (CircuitBreaker Float64) := ⟨fun f x => debugStruct "CircuitBreaker" [
  ("error_threshold", f.float x.errorThreshold)]⟩

instance : Debug Float64 BasicAuthCredential := ⟨fun f x => debugStruct "BasicAuthCredential" [
  ("username", fmt f x.username), ("cleartext_password", fmt f x.cleartextPassword),
  ("hashed_password", fmt f x.hashedPassword)]⟩

instance : Debug Float64 BasicAuth := ⟨fun f x => debugStruct "BasicAuth" [
  ("credentials", fmt f x.credentials)]⟩

instance : Debug Float64 IpRestriction := ⟨fun f x => debugStruct "IpRestriction" [
  ("allow_cidrs", fmt f x.allowCidrs), ("deny_cidrs", fmt f x.denyCidrs)]⟩

instance : Debug Float64 Oauth := ⟨fun f x => debugStruct "Oauth" [
  ("provider", fmt f x.provider), ("client_id", fmt f x.clientId),
  ("client_secret", fmt f x.clientSecret),
  ("sealed_client_secret", fmt f x.sealedClientSecret),
  ("allow_emails", fmt f x.allowEmails), ("allow_domains", fmt f x.allowDomains),
  ("scopes", fmt f x.scopes)]⟩

instance : Debug Float64 Oidc := ⟨fun f x => debugStruct "Oidc" [
  ("issuer_url", fmt f x.issuerUrl), ("client_id", fmt f x.clientId),
  ("client_secret", fmt f x.clientSecret),
  ("sealed_client_secret", fmt f x.sealedClientSecret),
  ("allow_emails", fmt f x.allowEmails), ("allow_domains", fmt f x.allowDomains),
  ("scopes", fmt f x.scopes)]⟩

instance : Debug Float64 WebhookVerification := ⟨fun f x => debugStruct "WebhookVerification" [
  ("provider", fmt f x.provider), ("secret", fmt f x.secret),
  ("sealed_secret", fmt f x.sealedSecret)]⟩

instance : Debug Float64 MutualTls := ⟨fun f x => debugStruct "MutualTls" [
  ("mutual_tls_ca", fmt f x.mutualTlsCa)]⟩

instance : Debug Float64 Headers := ⟨fun f x => debugStruct "Headers" [
  ("add", fmt f x.add), ("remove", fmt f x.remove),
  ("add_parsed", debugMap (x.addParsed.map fun entry => (fmt f entry.1, fmt f entry.2)))]⟩

instance : Debug Float64 WebsocketTcpConverter :=
  ⟨fun _ _ => debugStruct "WebsocketTcpConverter" []⟩

instance : Debug Float64 UserAgentFilter := ⟨fun f x => debugStruct "UserAgentFilter" [
  ("allow", fmt f x.allow), ("deny", fmt f x.deny)]⟩

instance : Debug Float64 Action := ⟨fun f x => debugStruct "Action" [
  ("type_", fmt f x.type_), ("config", fmt f x.config)]⟩

instance : Debug Float64 Rule := ⟨fun f x => debugStruct "Rule" [
  ("name", fmt f x.name), ("expressions", fmt f x.expressions),
  ("actions", fmt f x.actions)]⟩

instance : Debug Float64 Policy := ⟨fun f x => debugStruct "Policy" [
  ("inbound", fmt f x.inbound), ("outbound", fmt f x.outbound)]⟩

instance : Debug Float64 PolicyWrapper := ⟨fun f x => match x with
  | .policy value => debugTuple "Policy" (fmt f value)
  | .string value => debugTuple "String" (fmt f value)⟩

instance : Debug Float64 TlsTermination := ⟨fun f x => debugStruct "TlsTermination" [
  ("cert", fmt f x.cert), ("key", fmt f x.key), ("sealed_key", fmt f x.sealedKey)]⟩

instance : Debug Float64 (HttpEndpoint Float64) := ⟨fun f x => debugStruct "HttpEndpoint" [
  ("domain", fmt f x.domain), ("hostname", fmt f x.hostname), ("auth", fmt f x.auth),
  ("subdomain", fmt f x.subdomain), ("host_header_rewrite", fmt f x.hostHeaderRewrite),
  ("local_url_scheme", fmt f x.localUrlScheme), ("proxy_proto", fmt f x.proxyProto),
  ("compression", fmt f x.compression), ("circuit_breaker", fmt f x.circuitBreaker),
  ("ip_restriction", fmt f x.ipRestriction), ("basic_auth", fmt f x.basicAuth),
  ("oauth", fmt f x.oauth), ("oidc", fmt f x.oidc),
  ("webhook_verification", fmt f x.webhookVerification),
  ("mutual_tls_ca", fmt f x.mutualTlsCa), ("request_headers", fmt f x.requestHeaders),
  ("response_headers", fmt f x.responseHeaders),
  ("websocket_tcp_converter", fmt f x.websocketTcpConverter),
  ("user_agent_filter", fmt f x.userAgentFilter),
  ("traffic_policy", fmt f x.trafficPolicy)]⟩

instance : Debug Float64 TcpEndpoint := ⟨fun f x => debugStruct "TcpEndpoint" [
  ("addr", fmt f x.addr), ("proxy_proto", fmt f x.proxyProto),
  ("ip_restriction", fmt f x.ipRestriction), ("traffic_policy", fmt f x.trafficPolicy)]⟩

instance : Debug Float64 TlsEndpoint := ⟨fun f x => debugStruct "TlsEndpoint" [
  ("domain", fmt f x.domain), ("hostname", fmt f x.hostname),
  ("subdomain", fmt f x.subdomain), ("proxy_proto", fmt f x.proxyProto),
  ("mutual_tls_at_agent", fmt f x.mutualTlsAtAgent),
  ("mutual_tls_at_edge", fmt f x.mutualTlsAtEdge),
  ("tls_termination", fmt f x.tlsTermination), ("ip_restriction", fmt f x.ipRestriction),
  ("traffic_policy", fmt f x.trafficPolicy)]⟩

instance : Debug Float64 (BindOpts Float64) := ⟨fun f x => match x with
  | .http endpoint => debugTuple "Http" (fmt f endpoint)
  | .tcp endpoint => debugTuple "Tcp" (fmt f endpoint)
  | .tls endpoint => debugTuple "Tls" (fmt f endpoint)⟩

end DebugInstances

end Proto

end NgrokRust
