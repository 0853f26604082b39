import NgrokRust.AgentSession
import NgrokRust.SessionBuilder

/-!
# Dialing an upstream

The scheme of the URL that a tunnel is forwarded to says where a connection goes and
whether it is one with TLS.  The configurations for TLS are all made at once, by the first
connection that needs one, and looked up afterwards.
-/

namespace NgrokRust

namespace Forward

open Agent

/-- The kinds of I/O errors that are made here, and all the others. -/
inductive ErrorKind where
  | invalidInput
  | invalidData
  | notFound
  | notConnected
  | other (code : Nat)
deriving DecidableEq

/-- An error that is made of a kind alone has no message of its own. -/
structure IoError where
  kind : ErrorKind
  message : Option String
deriving DecidableEq

def IoError.new (kind : ErrorKind) (message : String) : IoError := ⟨kind, some message⟩

/-- `io::Error::from`, for a kind. -/
def IoError.ofKind (kind : ErrorKind) : IoError := ⟨kind, none⟩

/-- `url::Url`, with the path that a Unix socket has. -/
structure Url extends Builder.Url where
  path : String
deriving DecidableEq

/-- What a client configuration adds to the certificates of the host. -/
structure ClientConfig where
  verifies : Bool
  alpnProtocols : List String
deriving DecidableEq

/-- What `tls_config` finds in the process: the certificates of the host, and a default
provider of cryptography. -/
structure Crypto where
  hostCerts : Except IoError Unit
  provider : Bool

namespace TlsFlags

def flagHttp2 : UInt8 := 0b01

def flagVerifyUpstreamTls : UInt8 := 0b10

def flagMax : UInt8 := flagHttp2 ||| flagVerifyUpstreamTls

end TlsFlags

open TlsFlags

def noCryptoProviderError : IoError := .new .notFound "no default CryptoProvider installed"

def Crypto.config (crypto : Crypto) (p : UInt8) : Except IoError ClientConfig :=
  let http2 := p &&& flagHttp2 ≠ 0
  let verifyUpstreamTls := p &&& flagVerifyUpstreamTls ≠ 0
  match crypto.hostCerts with
  | .error error => .error error
  | .ok () =>
      if ¬ verifyUpstreamTls ∧ crypto.provider = false then .error noCryptoProviderError
      else .ok ⟨verifyUpstreamTls, if http2 then ["h2", "http/1.1"] else []⟩

def Crypto.configs (crypto : Crypto) : Except IoError (List (UInt8 × ClientConfig)) :=
  ((List.range (flagMax + 1).toNat).map UInt8.ofNat).mapM fun p =>
    (crypto.config p).map (p, ·)

/-- The key that `tls_config` looks up. -/
def tlsKey (appProtocol : Option String) (verifyUpstreamTls : Bool) : UInt8 :=
  (if appProtocol = some "http2" then flagHttp2 else 0) |||
    (if verifyUpstreamTls then flagVerifyUpstreamTls else 0)

/-- `tls_config`, which would panic without an answer. -/
def tlsConfig (crypto : Crypto) (appProtocol : Option String) (verifyUpstreamTls : Bool) :
    Option (Except IoError ClientConfig) :=
  match crypto.configs with
  | .error error => some (.error error)
  | .ok configs =>
      ((configs.lookup (tlsKey appProtocol verifyUpstreamTls)).or (configs.lookup 0)).map .ok

def requestedConfig (appProtocol : Option String) (verifyUpstreamTls : Bool) : ClientConfig where
  verifies := verifyUpstreamTls
  alpnProtocols := if appProtocol = some "http2" then ["h2", "http/1.1"] else []

/-- There always is a configuration, and it is the one that was asked for. But all of them
need what one of them needs: without a default provider of cryptography there is none, not
even one that verifies its upstream. -/
theorem tlsConfig_eq (crypto : Crypto) (appProtocol : Option String)
    (verifyUpstreamTls : Bool) :
    tlsConfig crypto appProtocol verifyUpstreamTls =
      some (match crypto.hostCerts with
        | .error error => .error error
        | .ok () =>
            if crypto.provider then .ok (requestedConfig appProtocol verifyUpstreamTls)
            else .error noCryptoProviderError) := by
  obtain ⟨hostCerts, provider⟩ := crypto
  cases hostCerts with
  | error error => rfl
  | ok =>
      cases provider with
      | false => rfl
      | true =>
          by_cases http2 : appProtocol = some "http2"
          · simp only [tlsConfig, requestedConfig, tlsKey, if_pos http2]
            cases verifyUpstreamTls <;> rfl
          · simp only [tlsConfig, requestedConfig, tlsKey, if_neg http2]
            cases verifyUpstreamTls <;> rfl

/-- Labeled tunnels yield connections of an edge, and all others those of an endpoint. -/
inductive Conn where
  | edge (inner : ConnInner)
  | endpoint (inner : ConnInner)
deriving DecidableEq

namespace Conn

def inner : Conn → ConnInner
  | .edge inner | .endpoint inner => inner

def tunnelTls : Conn → Bool
  | .edge inner => inner.header.edgeType == .tls && inner.header.passthroughTls
  | .endpoint inner => inner.header.proto == "tls" && inner.header.passthroughTls

def proxyProto : Conn → ProxyProto
  | .edge _ => .none
  | .endpoint inner => inner.proxyProto

def servesGatewayError : Conn → Bool
  | .edge inner => inner.header.edgeType == .https
  | .endpoint inner => inner.header.proto == "http" || inner.header.proto == "https"

end Conn

inductive Address where
  | tcp (addr : String)
  | unix (path : String)
deriving DecidableEq

def Url.host (url : Url) : String := url.hostStr.getD "localhost"

def Url.tcpAddress (url : Url) (port : UInt16) : Address :=
  .tcp (url.host ++ ":" ++ toString port.toNat)

/-- Where `connect` goes, and whether the upstream speaks TLS. -/
def Url.upstream (url : Url) : Except IoError (Address × Bool) :=
  if url.scheme = "tcp" then
    match url.port with
    | some port => .ok (url.tcpAddress port, false)
    | none => .error (.new .invalidInput ("missing port for tcp forwarding url " ++ url.asStr))
  else if url.scheme = "http" then .ok (url.tcpAddress (url.port.getD 80), false)
  else if url.scheme = "https" ∨ url.scheme = "tls" then
    .ok (url.tcpAddress (url.port.getD 443), true)
  else if url.scheme = "unix" then
    -- a path behind a host is a relative one
    match url.hostStr with
    | some host => .ok (.unix (host ++ url.path), false)
    | none => .ok (.unix url.path, false)
  else .error (.new .invalidInput ("unrecognized scheme in forwarding url: " ++ url.asStr))

variable {Header Name : Type}

/-- What `connect` uses of other crates and of the process. A header that cannot be encoded
is a panic. -/
structure Outside (Header Name : Type) where
  encode : Header → Option (List UInt8)
  serverName : String → Except String Name
  crypto : Crypto

/-- What is put around a connection: the bytes of a PROXY header, and TLS above them. -/
structure Layers (Name : Type) where
  header : List UInt8
  tls : Option (ClientConfig × Name)
deriving DecidableEq

namespace Outside

variable (outside : Outside Header Name)

/-- The bytes of the header, if there is one, or a panic. -/
def headerBytes : Option Header → Option (List UInt8)
  | none => some []
  | some header => outside.encode header

/-- The TLS of `connect`, which fails before its handshake if the host is no name or if
there is no configuration. -/
def tlsLayer (inner : ConnInner) (url : Url) : Option (Except IoError (ClientConfig × Name)) :=
  match outside.serverName url.host with
  | .error message => some (.error (.new .invalidInput message))
  | .ok domain =>
      (tlsConfig outside.crypto inner.appProtocol inner.verifyUpstreamTls).map fun config =>
        match config with
        | .error error => .error (.ofKind error.kind)
        | .ok config => .ok (config, domain)

/-- What `connect` does with a connection to its upstream, up to a handshake. -/
def layers (conn : Conn) (backendTls : Bool) (header : Option Header) (url : Url) :
    Option (Except IoError (Layers Name)) :=
  (outside.headerBytes header).bind fun bytes =>
    if backendTls && !conn.tunnelTls then
      (outside.tlsLayer conn.inner url).map fun tls => tls.map fun tls => ⟨bytes, some tls⟩
    else some (.ok ⟨bytes, none⟩)

/-- The name and the configuration that a connection with TLS is made with. -/
def Names (inner : ConnInner) (url : Url) (tls : ClientConfig × Name) : Prop :=
  tls.1 = requestedConfig inner.appProtocol inner.verifyUpstreamTls ∧
    outside.serverName url.host = .ok tls.2

variable {outside} {conn : Conn} {backendTls : Bool} {header : Option Header} {url : Url}

theorem names_of_tlsLayer {inner : ConnInner} {tls : ClientConfig × Name}
    (layer : outside.tlsLayer inner url = some (.ok tls)) : outside.Names inner url tls := by
  unfold tlsLayer at layer
  cases named : outside.serverName url.host with
  | error message =>
      rw [named] at layer
      cases layer
  | ok domain =>
      rw [named, tlsConfig_eq] at layer
      cases certs : outside.crypto.hostCerts with
      | error error =>
          rw [certs] at layer
          cases layer
      | ok =>
          cases provider : outside.crypto.provider with
          | false =>
              simp only [certs, provider] at layer
              cases layer
          | true =>
              simp only [certs, provider] at layer
              cases layer
              exact ⟨rfl, named⟩

/-- A connection that is made carries the header below its TLS. It has TLS exactly if the
upstream speaks it and the visitor does not speak it with the upstream already. -/
theorem layers_ok {layers : Layers Name}
    (made : outside.layers conn backendTls header url = some (.ok layers)) :
    outside.headerBytes header = some layers.header ∧
      (layers.tls.isSome = true ↔ backendTls = true ∧ conn.tunnelTls = false) ∧
      ∀ tls ∈ layers.tls, outside.Names conn.inner url tls := by
  unfold Outside.layers at made
  obtain ⟨bytes, encoded, made⟩ := Option.bind_eq_some_iff.1 made
  split at made
  · rename_i wanted
    obtain ⟨tls, layer, made⟩ := Option.map_eq_some_iff.1 made
    cases tls with
    | error error => cases made
    | ok tls =>
        cases made
        refine ⟨encoded, ?_, ?_⟩
        · simpa using wanted
        · rintro tls' ⟨⟩
          exact names_of_tlsLayer layer
  · rename_i unwanted
    cases made
    refine ⟨encoded, ?_, by simp⟩
    simpa using unwanted

end Outside

end Forward

end NgrokRust
