import NgrokRust.CallLogs
import NgrokRust.RpcClient
import NgrokRust.SessionBuilder

/-!
# The options of a tunnel

The builders of HTTP, TLS, TCP and labeled tunnels are set up call by call, and a request to
bind the tunnel is made of what they hold.  The lower case of a text, the order in which a
map yields its entries, and the name of the process are parameters.
-/

namespace NgrokRust

open JsonTrees CallLogs

namespace Config

/-- What the builders use of other crates and of the process. -/
structure Environment where
  toLowercase : String → String
  toUppercase : String → String
  iter : List (String × String) → List (String × String)
  defaultForwardsTo : String

/-- A map yields each of its entries once, in some order. -/
def Environment.Lawful (env : Environment) : Prop := ∀ entries, (env.iter entries).Perm entries

variable {Num Float64 : Type}

structure CidrRestrictions where
  allowed : List String
  denied : List String

structure Headers where
  added : List (String × String)
  removed : List String

structure UaFilter where
  allow : List String
  deny : List String

structure OauthOptions where
  provider : String
  clientId : String
  clientSecret : Proto.SecretString
  allowEmails : List String
  allowDomains : List String
  scopes : List String

structure OidcOptions where
  issuerUrl : String
  clientId : String
  clientSecret : Proto.SecretString
  allowEmails : List String
  allowDomains : List String
  scopes : List String

structure WebhookVerification where
  provider : String
  secret : Proto.SecretString

inductive Scheme where
  | http
  | https
deriving DecidableEq

def Scheme.fromStr (env : Environment) (string : String) : Option Scheme :=
  if env.toUppercase string = "HTTP" then some .http
  else if env.toUppercase string = "HTTPS" then some .https
  else none

def Binding.validate (env : Environment) (string : String) : Bool :=
  env.toLowercase string ∈ ["public", "internal", "kubernetes"]

/-- `binding` of any builder, which panics when it is called again or with anything else than
a binding. The text is kept as it was given. -/
def pushBinding (env : Environment) (bindings : List String) (binding : String) :
    Option (List String) :=
  if bindings ≠ [] then none
  else if Binding.validate env binding then some (bindings ++ [binding])
  else none

structure CommonOpts (Num : Type) where
  cidrRestrictions : CidrRestrictions
  proxyProto : Proto.ProxyProto
  metadata : Option String
  forwardsTo : Option String
  forwardsProto : Option String
  verifyUpstreamTls : Option Bool
  policy : Option (Policies.Policy Num)
  trafficPolicy : Option String
  poolingEnabled : Option Bool

def CommonOpts.default : CommonOpts Num :=
  ⟨⟨[], []⟩, .none, none, none, none, none, none, none, none⟩

/-- The calls that HTTP, TLS and TCP builders share. A policy may come from a text that is
none. -/
inductive CommonCall (Num : Type) where
  | allowCidr (cidr : String)
  | denyCidr (cidr : String)
  | proxyProto (proxyProto : Proto.ProxyProto)
  | metadata (metadata : String)
  | forwardsTo (forwardsTo : String)
  | verifyUpstreamTls (verify : Bool)
  | policy (policy : Except Policies.InvalidPolicy (Policies.Policy Num))
  | trafficPolicy (policy : String)
  | poolingEnabled (enabled : Bool)

/-- A policy that is none leaves the builder as it is. -/
def CommonOpts.call (opts : CommonOpts Num) : CommonCall Num → CommonOpts Num
  | .allowCidr cidr =>
      { opts with
        cidrRestrictions :=
          { opts.cidrRestrictions with allowed := opts.cidrRestrictions.allowed ++ [cidr] } }
  | .denyCidr cidr =>
      { opts with
        cidrRestrictions :=
          { opts.cidrRestrictions with denied := opts.cidrRestrictions.denied ++ [cidr] } }
  | .proxyProto proxyProto => { opts with proxyProto := proxyProto }
  | .metadata metadata => { opts with metadata := some metadata }
  | .forwardsTo forwardsTo => { opts with forwardsTo := some forwardsTo }
  | .verifyUpstreamTls verify => { opts with verifyUpstreamTls := some verify }
  | .policy (.ok policy) => { opts with policy := some policy }
  | .policy (.error _) => opts
  | .trafficPolicy policy => { opts with trafficPolicy := some policy }
  | .poolingEnabled enabled => { opts with poolingEnabled := some enabled }

namespace CommonOpts

variable (opts : CommonOpts Num)

def ipRestriction : Option Proto.IpRestriction :=
  if opts.cidrRestrictions.allowed ≠ [] ∨ opts.cidrRestrictions.denied ≠ [] then
    some ⟨opts.cidrRestrictions.allowed, opts.cidrRestrictions.denied⟩
  else none

def wrappedPolicy (text : Text Num) : Option Proto.PolicyWrapper :=
  if opts.trafficPolicy.isSome then opts.trafficPolicy.map .string
  else if opts.policy.isSome then opts.policy.map fun policy => .policy (policy.toProto text)
  else none

def extra (bindings : List String) : Proto.BindExtra where
  token := ⟨""⟩
  ipPolicyRef := ""
  metadata := opts.metadata.getD ""
  bindings := bindings
  poolingEnabled := opts.poolingEnabled.getD false

end CommonOpts

/-- `MutualTls::from`, which puts all certificates into one text. -/
def mutualTls (certs : List (List UInt8)) : Proto.MutualTls := ⟨certs.flatten⟩

structure HttpOptions (Num Float64 : Type) where
  commonOpts : CommonOpts Num
  scheme : Scheme
  domain : Option String
  mutualTlsca : List (List UInt8)
  compression : Bool
  websocketTcpConversion : Bool
  circuitBreaker : Float64
  requestHeaders : Headers
  responseHeaders : Headers
  rewriteHost : Bool
  basicAuth : List (String × String)
  oauth : Option OauthOptions
  oidc : Option OidcOptions
  webhookVerification : Option WebhookVerification
  userAgentFilter : UaFilter
  bindings : List String

def HttpOptions.default (zero : Float64) : HttpOptions Num Float64 where
  commonOpts := .default
  scheme := .https
  domain := none
  mutualTlsca := []
  compression := false
  websocketTcpConversion := false
  circuitBreaker := zero
  requestHeaders := ⟨[], []⟩
  responseHeaders := ⟨[], []⟩
  rewriteHost := false
  basicAuth := []
  oauth := none
  oidc := none
  webhookVerification := none
  userAgentFilter := ⟨[], []⟩
  bindings := []

inductive HttpCall (Num Float64 : Type) where
  | common (call : CommonCall Num)
  | binding (binding : String)
  | appProtocol (appProtocol : String)
  | scheme (scheme : Scheme)
  | domain (domain : String)
  | mutualTlsca (cert : List UInt8)
  | compression
  | websocketTcpConversion
  | circuitBreaker (circuitBreaker : Float64)
  | hostHeaderRewrite (rewrite : Bool)
  | requestHeader (name value : String)
  | responseHeader (name value : String)
  | removeRequestHeader (name : String)
  | removeResponseHeader (name : String)
  | basicAuth (username password : String)
  | oauth (oauth : OauthOptions)
  | oidc (oidc : OidcOptions)
  | webhookVerification (provider secret : String)
  | allowUserAgent (regex : String)
  | denyUserAgent (regex : String)

def Headers.add (env : Environment) (headers : Headers) (name value : String) : Headers :=
  { headers with added := insertEntry headers.added (env.toLowercase name, value) }

def Headers.remove (env : Environment) (headers : Headers) (name : String) : Headers :=
  { headers with removed := headers.removed ++ [env.toLowercase name] }

def Headers.hasEntries (headers : Headers) : Bool :=
  !headers.added.isEmpty || !headers.removed.isEmpty

def Headers.toProto (env : Environment) (headers : Headers) : Proto.Headers where
  add := (env.iter headers.added).map fun entry => entry.1 ++ ":" ++ entry.2
  remove := headers.removed
  addParsed := []

def OauthOptions.toProto (options : OauthOptions) : Proto.Oauth where
  provider := options.provider
  clientId := options.clientId
  clientSecret := options.clientSecret
  sealedClientSecret := []
  allowEmails := options.allowEmails
  allowDomains := options.allowDomains
  scopes := options.scopes

def OidcOptions.toProto (options : OidcOptions) : Proto.Oidc where
  issuerUrl := options.issuerUrl
  clientId := options.clientId
  clientSecret := options.clientSecret
  sealedClientSecret := []
  allowEmails := options.allowEmails
  allowDomains := options.allowDomains
  scopes := options.scopes

def WebhookVerification.toProto (verification : WebhookVerification) :
    Proto.WebhookVerification :=
  ⟨verification.provider, verification.secret, []⟩

/-- `BasicAuthCredential::from`. -/
def credential (basicAuth : String × String) : Proto.BasicAuthCredential :=
  ⟨basicAuth.1, basicAuth.2, []⟩

def HttpOptions.call (env : Environment) (options : HttpOptions Num Float64) :
    HttpCall Num Float64 → Option (HttpOptions Num Float64)
  | .common call => some { options with commonOpts := options.commonOpts.call call }
  | .binding binding => (pushBinding env options.bindings binding).map fun bindings =>
      { options with bindings := bindings }
  | .appProtocol appProtocol =>
      some { options with
        commonOpts := { options.commonOpts with forwardsProto := some appProtocol } }
  | .scheme scheme => some { options with scheme := scheme }
  | .domain domain => some { options with domain := some domain }
  | .mutualTlsca cert => some { options with mutualTlsca := options.mutualTlsca ++ [cert] }
  | .compression => some { options with compression := true }
  | .websocketTcpConversion => some { options with websocketTcpConversion := true }
  | .circuitBreaker circuitBreaker => some { options with circuitBreaker := circuitBreaker }
  | .hostHeaderRewrite rewrite => some { options with rewriteHost := rewrite }
  | .requestHeader name value =>
      some { options with requestHeaders := options.requestHeaders.add env name value }
  | .responseHeader name value =>
      some { options with responseHeaders := options.responseHeaders.add env name value }
  | .removeRequestHeader name =>
      some { options with requestHeaders := options.requestHeaders.remove env name }
  | .removeResponseHeader name =>
      some { options with responseHeaders := options.responseHeaders.remove env name }
  | .basicAuth username password =>
      some { options with basicAuth := options.basicAuth ++ [(username, password)] }
  | .oauth oauth => some { options with oauth := some oauth }
  | .oidc oidc => some { options with oidc := some oidc }
  | .webhookVerification provider secret =>
      some { options with webhookVerification := some ⟨provider, ⟨secret⟩⟩ }
  | .allowUserAgent regex =>
      some { options with
        userAgentFilter :=
          { options.userAgentFilter with allow := options.userAgentFilter.allow ++ [regex] } }
  | .denyUserAgent regex =>
      some { options with
        userAgentFilter :=
          { options.userAgentFilter with deny := options.userAgentFilter.deny ++ [regex] } }

structure TlsOptions (Num : Type) where
  commonOpts : CommonOpts Num
  domain : Option String
  mutualTlsca : List (List UInt8)
  keyPem : Option (List UInt8)
  certPem : Option (List UInt8)
  bindings : List String

def TlsOptions.default : TlsOptions Num := ⟨.default, none, [], none, none, []⟩

inductive TlsCall (Num : Type) where
  | common (call : CommonCall Num)
  | binding (binding : String)
  | domain (domain : String)
  | mutualTlsca (cert : List UInt8)
  | termination (certPem keyPem : List UInt8)

def TlsOptions.call (env : Environment) (options : TlsOptions Num) :
    TlsCall Num → Option (TlsOptions Num)
  | .common call => some { options with commonOpts := options.commonOpts.call call }
  | .binding binding => (pushBinding env options.bindings binding).map fun bindings =>
      { options with bindings := bindings }
  | .domain domain => some { options with domain := some domain }
  | .mutualTlsca cert => some { options with mutualTlsca := options.mutualTlsca ++ [cert] }
  | .termination certPem keyPem =>
      some { options with keyPem := some keyPem, certPem := some certPem }

structure TcpOptions (Num : Type) where
  commonOpts : CommonOpts Num
  remoteAddr : Option String
  bindings : List String

def TcpOptions.default : TcpOptions Num := ⟨.default, none, []⟩

inductive TcpCall (Num : Type) where
  | common (call : CommonCall Num)
  | binding (binding : String)
  | remoteAddr (remoteAddr : String)

def TcpOptions.call (env : Environment) (options : TcpOptions Num) :
    TcpCall Num → Option (TcpOptions Num)
  | .common call => some { options with commonOpts := options.commonOpts.call call }
  | .binding binding => (pushBinding env options.bindings binding).map fun bindings =>
      { options with bindings := bindings }
  | .remoteAddr remoteAddr => some { options with remoteAddr := some remoteAddr }

structure LabeledOptions (Num : Type) where
  commonOpts : CommonOpts Num
  labels : List (String × String)

def LabeledOptions.default : LabeledOptions Num := ⟨.default, []⟩

inductive LabeledCall where
  | metadata (metadata : String)
  | label (label value : String)
  | forwardsTo (forwardsTo : String)
  | appProtocol (appProtocol : String)
  | verifyUpstreamTls (verify : Bool)

def LabeledOptions.call (options : LabeledOptions Num) : LabeledCall → LabeledOptions Num
  | .metadata metadata =>
      { options with commonOpts := options.commonOpts.call (.metadata metadata) }
  | .label label value => { options with labels := insertEntry options.labels (label, value) }
  | .forwardsTo forwardsTo =>
      { options with commonOpts := options.commonOpts.call (.forwardsTo forwardsTo) }
  | .appProtocol appProtocol =>
      { options with commonOpts := { options.commonOpts with forwardsProto := some appProtocol } }
  | .verifyUpstreamTls verify =>
      { options with commonOpts := options.commonOpts.call (.verifyUpstreamTls verify) }

/-- What the functions of a `TunnelConfig` return. -/
structure TunnelConfig (Float64 : Type) where
  forwardsTo : String
  forwardsProto : String
  verifyUpstreamTls : Bool
  extra : Proto.BindExtra
  proto : String
  opts : Option (Proto.BindOpts Float64)
  labels : List (String × String)

section Configs

variable (env : Environment) (formats : Formats Num Float64) (text : Text Num)

def HttpOptions.endpoint (options : HttpOptions Num Float64) : Proto.HttpEndpoint Float64 where
  domain := options.domain.getD ""
  hostname := ""
  auth := ""
  subdomain := ""
  hostHeaderRewrite := false
  localUrlScheme := none
  proxyProto := options.commonOpts.proxyProto
  compression := if options.compression then some ⟨⟩ else none
  circuitBreaker :=
    if formats.isZero options.circuitBreaker then none else some ⟨options.circuitBreaker⟩
  ipRestriction := options.commonOpts.ipRestriction
  basicAuth :=
    if options.basicAuth ≠ [] then some ⟨options.basicAuth.map credential⟩ else none
  oauth := options.oauth.map OauthOptions.toProto
  oidc := options.oidc.map OidcOptions.toProto
  webhookVerification := options.webhookVerification.map WebhookVerification.toProto
  mutualTlsCa := if options.mutualTlsca ≠ [] then some (mutualTls options.mutualTlsca) else none
  requestHeaders :=
    if options.requestHeaders.hasEntries then some (options.requestHeaders.toProto env) else none
  responseHeaders :=
    if options.responseHeaders.hasEntries then some (options.responseHeaders.toProto env)
    else none
  websocketTcpConverter := if options.websocketTcpConversion then some ⟨⟩ else none
  userAgentFilter :=
    if options.userAgentFilter.allow ≠ [] ∨ options.userAgentFilter.deny ≠ [] then
      some ⟨options.userAgentFilter.allow, options.userAgentFilter.deny⟩
    else none
  trafficPolicy := options.commonOpts.wrappedPolicy text

def HttpOptions.config (options : HttpOptions Num Float64) : TunnelConfig Float64 where
  forwardsTo := options.commonOpts.forwardsTo.getD env.defaultForwardsTo
  forwardsProto := options.commonOpts.forwardsProto.getD ""
  verifyUpstreamTls := options.commonOpts.verifyUpstreamTls.getD true
  extra := options.commonOpts.extra options.bindings
  proto := if options.scheme = .http then "http" else "https"
  opts := some (.http (options.endpoint env formats text))
  labels := []

def TlsOptions.endpoint (options : TlsOptions Num) : Proto.TlsEndpoint where
  domain := options.domain.getD ""
  hostname := ""
  subdomain := ""
  proxyProto := options.commonOpts.proxyProto
  mutualTlsAtAgent := false
  mutualTlsAtEdge :=
    if options.mutualTlsca ≠ [] then some (mutualTls options.mutualTlsca) else none
  tlsTermination :=
    match options.certPem, options.keyPem with
    | some cert, some key => some ⟨cert, ⟨key⟩, []⟩
    | _, _ => none
  ipRestriction := options.commonOpts.ipRestriction
  trafficPolicy := options.commonOpts.wrappedPolicy text

def TlsOptions.config (options : TlsOptions Num) : TunnelConfig Float64 where
  forwardsTo := options.commonOpts.forwardsTo.getD env.defaultForwardsTo
  forwardsProto := ""
  verifyUpstreamTls := options.commonOpts.verifyUpstreamTls.getD true
  extra := options.commonOpts.extra options.bindings
  proto := "tls"
  opts := some (.tls (options.endpoint text))
  labels := []

def TcpOptions.endpoint (options : TcpOptions Num) : Proto.TcpEndpoint where
  addr := options.remoteAddr.getD ""
  proxyProto := options.commonOpts.proxyProto
  ipRestriction := options.commonOpts.ipRestriction
  trafficPolicy := options.commonOpts.wrappedPolicy text

def TcpOptions.config (options : TcpOptions Num) : TunnelConfig Float64 where
  forwardsTo := options.commonOpts.forwardsTo.getD env.defaultForwardsTo
  forwardsProto := ""
  verifyUpstreamTls := options.commonOpts.verifyUpstreamTls.getD true
  extra := options.commonOpts.extra options.bindings
  proto := "tcp"
  opts := some (.tcp (options.endpoint text))
  labels := []

def LabeledOptions.config (options : LabeledOptions Num) : TunnelConfig Float64 where
  forwardsTo := options.commonOpts.forwardsTo.getD env.defaultForwardsTo
  forwardsProto := options.commonOpts.forwardsProto.getD ""
  verifyUpstreamTls := options.commonOpts.verifyUpstreamTls.getD true
  extra := options.commonOpts.extra []
  proto := ""
  opts := none
  labels := options.labels

end Configs

def CommonOpts.forForwardingTo (opts : CommonOpts Num) (toUrl : Builder.Url) : CommonOpts Num :=
  { opts with forwardsTo := some toUrl.asStr }

def HttpOptions.forForwardingTo (env : Environment) (options : HttpOptions Num Float64)
    (toUrl : Builder.Url) : HttpOptions Num Float64 :=
  let options := { options with commonOpts := options.commonOpts.forForwardingTo toUrl }
  match toUrl.hostStr.filter fun _ => options.rewriteHost with
  | some host => { options with requestHeaders := options.requestHeaders.add env "host" host }
  | none => options

def TlsOptions.forForwardingTo (options : TlsOptions Num) (toUrl : Builder.Url) :
    TlsOptions Num :=
  { options with commonOpts := options.commonOpts.forForwardingTo toUrl }

def TcpOptions.forForwardingTo (options : TcpOptions Num) (toUrl : Builder.Url) :
    TcpOptions Num :=
  { options with commonOpts := options.commonOpts.forForwardingTo toUrl }

def LabeledOptions.forForwardingTo (options : LabeledOptions Num) (toUrl : Builder.Url) :
    LabeledOptions Num :=
  { options with commonOpts := options.commonOpts.forForwardingTo toUrl }

end Config

end NgrokRust
