import NgrokRust.LabelledRuns
import Mathlib.Algebra.Group.Nat.Defs
import Mathlib.Data.List.Basic

/-!
# Configuring a session

A `SessionBuilder` is changed by reference, so that a call which fails may have changed it
all the same.  Whoever keeps the builder after an error connects with what the failed call
has left.
-/

namespace NgrokRust

namespace Builder

/-- A callback, a connector or a TLS configuration of the application, by its number. -/
abbrev Handle := Nat

/-- `url::Url`. -/
structure Url where
  asStr : String
  scheme : String
  hostStr : Option String
  port : Option UInt16
deriving DecidableEq

/-- What other crates make of names: `Url` and `Uri` are parsed, and a host is a
`ServerName` or not. -/
structure Names where
  parseUrl : String → Option Url
  parseUri : String → Bool
  serverName : String → Bool

/-- What the connectors meet: whether TCP connections, proxies and TLS handshakes succeed. -/
structure Network where
  tcp : String → UInt16 → Bool
  fromProxy : Url → Bool
  httpProxy : Url → String → Bool
  socksProxy : String → String → Bool
  tls : String → Bool

abbrev ClientInfo := String × String × Option String

inductive Connector where
  | defaultConnect
  | httpProxy (url : Url)
  | socksProxy (addr : String)
  | custom (connect : Handle)
deriving DecidableEq

structure CommandHandlers where
  onRestart : Option Handle
  onUpdate : Option Handle
  onStop : Option Handle
deriving DecidableEq

/-- The nanoseconds that an `i64` can hold. -/
abbrev Nanos := { nanos : Nat // nanos < 2 ^ 63 }

/-- `i64::try_from`. -/
def tryNanos (nanos : Nat) : Option Nanos :=
  if fits : nanos < 2 ^ 63 then some ⟨nanos, fits⟩ else none

/-- `SessionBuilder`. The first of its versions names the client, so there is one. -/
structure SessionBuilder where
  versions : List ClientInfo
  named : versions ≠ []
  authtoken : Option String
  metadata : Option String
  heartbeatInterval : Option Nanos
  heartbeatTolerance : Option Nanos
  heartbeatHandler : Option Handle
  serverHost : String
  serverPort : UInt16
  caCert : Option (List UInt8)
  tlsConfig : Option Handle
  connector : Connector
  handlers : CommandHandlers
  cookie : Option String
  id : Option String
deriving DecidableEq

def clientType : String := "ngrok-rust"
def version : String := "0.19.0"
def defaultHost : String := "connect.ngrok-agent.com"

def SessionBuilder.default : SessionBuilder where
  versions := [(clientType, version, none)]
  named := List.cons_ne_nil _ _
  authtoken := none
  metadata := none
  heartbeatInterval := none
  heartbeatTolerance := none
  heartbeatHandler := none
  serverHost := defaultHost
  serverPort := 443
  caCert := none
  tlsConfig := none
  connector := .defaultConnect
  handlers := ⟨none, none, none⟩
  cookie := none
  id := none

inductive BuilderError where
  | invalidHeartbeatInterval (nanos : Nat)
  | invalidHeartbeatTolerance (nanos : Nat)
  | invalidServerAddr (addr : String)
  | proxyUnsupported (url : Url)
  | io (text : String)
deriving DecidableEq

def BuilderError.text : BuilderError → String
  | .invalidHeartbeatInterval nanos => "invalid heartbeat interval: " ++ toString nanos
  | .invalidHeartbeatTolerance nanos => "invalid heartbeat tolerance: " ++ toString nanos
  | .invalidServerAddr addr => "invalid server address: " ++ addr
  | .proxyUnsupported url => "unsupported proxy address: " ++ url.asStr
  | .io text => text

inductive ConnectError where
  | tcp
  | tls
  | proxyConnect
deriving DecidableEq

inductive Connected where
  | conn
  | failed (error : ConnectError)
  | panicked (message : String)
deriving DecidableEq

def hostExpected : String :=
  "host should have been validated by SessionBuilder::server_addr"

/-- The handshake at the end of each connector, with its `expect`. -/
def connectTls (names : Names) (net : Network) (host : String) : Connected :=
  if names.serverName host then if net.tls host then .conn else .failed .tls
  else .panicked hostExpected

def defaultConnect (names : Names) (net : Network) (host : String) (port : UInt16) :
    Connected :=
  if ¬ net.tcp host port then .failed .tcp else connectTls names net host

def hostAndPort (host : String) (port : UInt16) : String := host ++ ":" ++ toString port.toNat

def connectHttpProxy (names : Names) (net : Network) (url : Url) (host : String)
    (port : UInt16) : Connected :=
  if ¬ names.parseUri url.asStr then .panicked "urls should be valid uris"
  else if ¬ net.fromProxy url then .failed .proxyConnect
  else if ¬ names.parseUri ("http://" ++ hostAndPort host port) then .panicked hostExpected
  else if ¬ net.httpProxy url ("http://" ++ hostAndPort host port) then .failed .proxyConnect
  else connectTls names net host

def connectSocksProxy (names : Names) (net : Network) (proxyAddr : String) (host : String)
    (port : UInt16) : Connected :=
  if ¬ net.socksProxy proxyAddr (hostAndPort host port) then .failed .proxyConnect
  else connectTls names net host

def connectProxy (url : Url) : Except BuilderError Connector :=
  if url.scheme = "http" ∨ url.scheme = "https" then .ok (.httpProxy url)
  else if url.scheme = "socks5" then
    .ok (.socksProxy (hostAndPort (url.hostStr.getD "") (url.port.getD 1080)))
  else .error (.proxyUnsupported url)

/-- A call of one of the methods, with what it gets from the environment: a variable, a
file, and the certificates of the host. -/
inductive Call where
  | authtoken (authtoken : String)
  | authtokenFromEnv (var : Option String)
  | heartbeatInterval (nanos : Nat)
  | heartbeatTolerance (nanos : Nat)
  | metadata (metadata : String)
  | serverAddr (addr : String)
  | rootCas (rootCas : String) (file : Except String (List UInt8)) (host : Except String Handle)
  | caCert (caCert : List UInt8)
  | tlsConfig (config : Handle)
  | connector (connect : Handle)
  | proxyUrl (url : Url)
  | handleStopCommand (handler : Handle)
  | handleRestartCommand (handler : Handle)
  | handleUpdateCommand (handler : Handle)
  | handleHeartbeat (callback : Handle)
  | clientInfo (clientType version : String) (comments : Option String)

abbrev Called := SessionBuilder × Except BuilderError Unit

namespace SessionBuilder

variable (builder : SessionBuilder)

def setHeartbeatInterval (nanos : Nat) : Called :=
  match tryNanos nanos with
  | some heartbeatInterval => ({ builder with heartbeatInterval := some heartbeatInterval }, .ok ())
  | none => (builder, .error (.invalidHeartbeatInterval nanos))

def setHeartbeatTolerance (nanos : Nat) : Called :=
  match tryNanos nanos with
  | some heartbeatTolerance => ({ builder with heartbeatTolerance := some heartbeatTolerance }, .ok ())
  | none => (builder, .error (.invalidHeartbeatTolerance nanos))

/-- `server_addr` stores the host and then looks whether it is one. -/
def serverAddr (names : Names) (addr : String) : Called :=
  match names.parseUrl ("http://" ++ addr) with
  | none => (builder, .error (.invalidServerAddr addr))
  | some serverUri =>
      match serverUri.hostStr with
      | none => (builder, .error (.invalidServerAddr addr))
      | some host =>
          if names.serverName host then
            ({ builder with serverHost := host, serverPort := serverUri.port.getD 443 }, .ok ())
          else ({ builder with serverHost := host }, .error (.invalidServerAddr addr))

def rootCas (rootCas : String) (file : Except String (List UInt8))
    (host : Except String Handle) : Called :=
  if rootCas = "trusted" then ({ builder with caCert := none }, .ok ())
  else if rootCas = "host" then
    match host with
    | .ok config => ({ builder with tlsConfig := some config }, .ok ())
    | .error text => (builder, .error (.io text))
  else
    match file with
    | .ok cert => ({ builder with caCert := some cert }, .ok ())
    | .error text => (builder, .error (.io text))

def proxyUrl (url : Url) : Called :=
  match connectProxy url with
  | .ok connector => ({ builder with connector := connector }, .ok ())
  | .error error => (builder, .error error)

def clientInfo (clientType version : String) (comments : Option String) : SessionBuilder :=
  { builder with
    versions := (clientType, version, comments) :: builder.versions
    named := List.cons_ne_nil _ _ }

def call (names : Names) : Call → Called
  | .authtoken authtoken => ({ builder with authtoken := some authtoken }, .ok ())
  | .authtokenFromEnv var => ({ builder with authtoken := var }, .ok ())
  | .heartbeatInterval nanos => builder.setHeartbeatInterval nanos
  | .heartbeatTolerance nanos => builder.setHeartbeatTolerance nanos
  | .metadata metadata => ({ builder with metadata := some metadata }, .ok ())
  | .serverAddr addr => builder.serverAddr names addr
  | .rootCas path file host => builder.rootCas path file host
  | .caCert cert => ({ builder with caCert := some cert }, .ok ())
  | .tlsConfig config => ({ builder with tlsConfig := some config }, .ok ())
  | .connector connect => ({ builder with connector := .custom connect }, .ok ())
  | .proxyUrl url => builder.proxyUrl url
  | .handleStopCommand handler =>
      ({ builder with handlers := { builder.handlers with onStop := some handler } }, .ok ())
  | .handleRestartCommand handler =>
      ({ builder with handlers := { builder.handlers with onRestart := some handler } }, .ok ())
  | .handleUpdateCommand handler =>
      ({ builder with handlers := { builder.handlers with onUpdate := some handler } }, .ok ())
  | .handleHeartbeat callback =>
      ({ builder with heartbeatHandler := some callback }, .ok ())
  | .clientInfo clientType version comments =>
      (builder.clientInfo clientType version comments, .ok ())

/-- What a caller that goes on after errors has behind it. -/
def step (names : Names) (builder : SessionBuilder) (call : Call) : SessionBuilder :=
  (builder.call names call).1

def built (names : Names) (calls : List Call) : SessionBuilder :=
  LabelledRuns.run (step names) default calls

end SessionBuilder

/-- The default host is a server name, and every server name that is the default or the host
of a URL can stand in a `Uri`. -/
structure Names.Lawful (names : Names) : Prop where
  serverName_default : names.serverName defaultHost = true
  parseUri_default : ∀ port, names.parseUri ("http://" ++ hostAndPort defaultHost port) = true
  parseUri_of_url : ∀ {text : String} {url : Url} {host : String} (port : UInt16),
    names.parseUrl text = some url → url.hostStr = some host →
      names.serverName host = true → names.parseUri ("http://" ++ hostAndPort host port) = true

/-- A host that is a server name also where it stands before a port. -/
structure Names.Validated (names : Names) (host : String) : Prop where
  serverName : names.serverName host = true
  parseUri : ∀ port, names.parseUri ("http://" ++ hostAndPort host port) = true

/-- No host that a URL has in this place is anything but a server name. -/
def Names.Accepts (names : Names) (addr : String) : Prop :=
  ∀ url host, names.parseUrl ("http://" ++ addr) = some url → url.hostStr = some host →
    names.serverName host = true

/-- The host is a server name, and on no network a connector panics because of it. -/
structure Usable (names : Names) (builder : SessionBuilder) : Prop where
  serverName : names.serverName builder.serverHost = true
  default : ∀ net, defaultConnect names net builder.serverHost builder.serverPort ≠
    .panicked hostExpected
  httpProxy : ∀ net url, connectHttpProxy names net url builder.serverHost builder.serverPort ≠
    .panicked hostExpected
  socksProxy : ∀ net addr,
    connectSocksProxy names net addr builder.serverHost builder.serverPort ≠
      .panicked hostExpected

/-- Over a list of calls, a `server_addr` that fails leaves host and port alone, and in no
state a connector can panic because of the host. -/
structure LeavesUsable (names : Names) (calls : List Call) : Prop where
  unchanged : ∀ earlier addr later, calls = earlier ++ .serverAddr addr :: later →
    ∀ error, ((SessionBuilder.built names earlier).serverAddr names addr).2 = .error error →
      ((SessionBuilder.built names earlier).serverAddr names addr).1.serverHost =
          (SessionBuilder.built names earlier).serverHost ∧
        ((SessionBuilder.built names earlier).serverAddr names addr).1.serverPort =
          (SessionBuilder.built names earlier).serverPort
  usable : ∀ earlier, earlier <+: calls → Usable names (SessionBuilder.built names earlier)

variable {names : Names} {builder : SessionBuilder}

theorem connectTls_ne_panicked {net : Network} {host : String}
    (valid : names.serverName host = true) :
    connectTls names net host ≠ .panicked hostExpected := by
  rw [connectTls, if_pos valid]
  split <;> simp

theorem Names.Validated.usable (valid : names.Validated builder.serverHost) :
    Usable names builder where
  serverName := valid.serverName
  default := by
    intro net
    unfold defaultConnect
    split
    · simp
    · exact connectTls_ne_panicked valid.serverName
  httpProxy := by
    intro net url
    unfold connectHttpProxy
    split
    · decide
    · split
      · simp
      · split
        · exact absurd (valid.parseUri _) ‹_›
        · split
          · simp
          · exact connectTls_ne_panicked valid.serverName
  socksProxy := by
    intro net addr
    unfold connectSocksProxy
    split
    · simp
    · exact connectTls_ne_panicked valid.serverName

namespace SessionBuilder

/-- No call but `server_addr` touches the host and the port. -/
theorem step_address (names : Names) (builder : SessionBuilder) (call : Call)
    (other : ∀ addr, call ≠ .serverAddr addr) :
    (builder.step names call).serverHost = builder.serverHost ∧
      (builder.step names call).serverPort = builder.serverPort := by
  cases call with
  | serverAddr addr => exact absurd rfl (other addr)
  | heartbeatInterval nanos =>
      simp only [step, SessionBuilder.call, setHeartbeatInterval]
      cases tryNanos nanos <;> simp
  | heartbeatTolerance nanos =>
      simp only [step, SessionBuilder.call, setHeartbeatTolerance]
      cases tryNanos nanos <;> simp
  | rootCas path file host =>
      simp only [step, SessionBuilder.call, SessionBuilder.rootCas]
      split
      · simp
      · split
        · cases host <;> simp
        · cases file <;> simp
  | proxyUrl url =>
      simp only [step, SessionBuilder.call, SessionBuilder.proxyUrl]
      cases connectProxy url <;> simp
  | authtoken | authtokenFromEnv | metadata | caCert | tlsConfig | connector | handleStopCommand
  | handleRestartCommand | handleUpdateCommand | handleHeartbeat | clientInfo => exact ⟨rfl, rfl⟩

/-- What `server_addr` can do: refuse the address unread, store a host that is none, or
store a host and its port. -/
theorem serverAddr_cases (builder : SessionBuilder) (names : Names) (addr : String) :
    (∃ error, builder.serverAddr names addr = (builder, .error error)) ∨
      ∃ url host, names.parseUrl ("http://" ++ addr) = some url ∧ url.hostStr = some host ∧
        (names.serverName host = false ∧ builder.serverAddr names addr =
            ({ builder with serverHost := host }, .error (.invalidServerAddr addr)) ∨
          names.serverName host = true ∧ builder.serverAddr names addr =
            ({ builder with serverHost := host, serverPort := url.port.getD 443 }, .ok ())) := by
  unfold serverAddr
  split
  · exact .inl ⟨_, rfl⟩
  · rename_i url parsed
    split
    · exact .inl ⟨_, rfl⟩
    · rename_i host named
      right
      refine ⟨url, host, parsed, named, ?_⟩
      cases valid : names.serverName host with
      | false => exact .inl ⟨rfl, by simp⟩
      | true => exact .inr ⟨rfl, by simp⟩

/-- With accepted addresses the host stays one that has been validated. -/
theorem validated_step (lawful : names.Lawful) {call : Call}
    (accepted : ∀ addr, call = .serverAddr addr → names.Accepts addr)
    (valid : names.Validated builder.serverHost) :
    names.Validated (builder.step names call).serverHost := by
  by_cases address : ∃ addr, call = .serverAddr addr
  · obtain ⟨addr, rfl⟩ := address
    obtain ⟨error, refused⟩ | ⟨url, host, parsed, named, ⟨rejected, -⟩ | ⟨known, stored⟩⟩ :=
      serverAddr_cases builder names addr
    · rw [step, call, refused]
      exact valid
    · rw [accepted addr rfl url host parsed named] at rejected
      cases rejected
    · rw [step, call, stored]
      exact ⟨known, fun port => lawful.parseUri_of_url port parsed named known⟩
  · have other : ∀ addr, call ≠ .serverAddr addr := fun addr same => address ⟨addr, same⟩
    rw [(step_address names builder call other).1]
    exact valid

theorem validated_run (lawful : names.Lawful) {calls : List Call}
    (accepted : ∀ addr, .serverAddr addr ∈ calls → names.Accepts addr)
    (valid : names.Validated builder.serverHost) :
    names.Validated (LabelledRuns.run (step names) builder calls).serverHost := by
  induction calls generalizing builder with
  | nil => exact valid
  | cons call calls ih =>
      have first : ∀ addr, call = .serverAddr addr → names.Accepts addr :=
        fun addr same => accepted addr (same ▸ List.mem_cons_self)
      have others : ∀ addr, .serverAddr addr ∈ calls → names.Accepts addr :=
        fun addr mem => accepted addr (List.mem_cons_of_mem _ mem)
      exact ih others (validated_step lawful first valid)

theorem serverHost_built_rejected {earlier : List Call} {addr host : String} {url : Url}
    (parsed : names.parseUrl ("http://" ++ addr) = some url) (named : url.hostStr = some host)
    (rejected : names.serverName host = false) :
    (built names (earlier ++ [.serverAddr addr])).serverHost = host := by
  rw [built, LabelledRuns.run_append, LabelledRuns.run_cons, LabelledRuns.run_nil, step, call,
    serverAddr]
  simp [parsed, named, rejected]

end SessionBuilder

open SessionBuilder in
/-- A builder stays usable over a list of calls exactly when none of them is a `server_addr`
with an address that has a host for a URL but no server name. -/
theorem leavesUsable_iff (lawful : names.Lawful) (calls : List Call) :
    LeavesUsable names calls ↔ ∀ addr, .serverAddr addr ∈ calls → names.Accepts addr := by
  constructor
  · intro leaves addr mem url host parsed named
    obtain ⟨earlier, later, split⟩ := List.append_of_mem mem
    by_contra unknown
    have rejected : names.serverName host = false := by simpa using unknown
    have early : earlier ++ [.serverAddr addr] <+: calls := ⟨later, by simp [split]⟩
    have valid := (leaves.usable _ early).serverName
    rw [serverHost_built_rejected parsed named rejected, rejected] at valid
    cases valid
  · intro accepted
    constructor
    · intro earlier addr later split error failed
      have mem : Call.serverAddr addr ∈ calls := by simp [split]
      obtain ⟨_, refused⟩ | ⟨url, host, parsed, named, ⟨rejected, -⟩ | ⟨-, stored⟩⟩ :=
        serverAddr_cases (built names earlier) names addr
      · rw [refused]
        exact ⟨rfl, rfl⟩
      · rw [accepted addr mem url host parsed named] at rejected
        cases rejected
      · rw [stored] at failed
        cases failed
    · intro earlier early
      have valid : names.Validated SessionBuilder.default.serverHost :=
        ⟨lawful.serverName_default, lawful.parseUri_default⟩
      have accepts : ∀ addr, .serverAddr addr ∈ earlier → names.Accepts addr :=
        fun addr mem => accepted addr (early.subset mem)
      exact (validated_run lawful accepts valid).usable

/-- Three URLs and two server names. An IPv6 address stands in brackets in a URL, and a
server name has none. -/
def someNames : Names where
  parseUrl := fun text =>
    if text = "http://example.com" then some ⟨"http://example.com/", "http", "example.com", none⟩
    else if text = "http://[::1]:443" then some ⟨"http://[::1]:443/", "http", "[::1]", some 443⟩
    else none
  parseUri := fun _ => true
  serverName := fun host => host = defaultHost ∨ host = "example.com"

theorem someNames_lawful : someNames.Lawful where
  serverName_default := by decide
  parseUri_default := fun _ => rfl
  parseUri_of_url := fun _ _ _ _ => rfl

theorem leavesUsable_example :
    LeavesUsable someNames [.serverAddr "example.com", .serverAddr "exa mple"] := by
  apply (leavesUsable_iff someNames_lawful _).2
  intro addr mem url host parsed named
  obtain rfl | rfl : addr = "example.com" ∨ addr = "exa mple" := by simpa using mem
  · have known : url = ⟨"http://example.com/", "http", "example.com", none⟩ := by
      simpa [someNames] using parsed.symm
    rw [known] at named
    cases named
    decide
  · simp [someNames] at parsed

/-- The call fails, and the host that it leaves behind makes the default connector panic. -/
theorem not_leavesUsable_brackets : ¬ LeavesUsable someNames [.serverAddr "[::1]:443"] := by
  intro leaves
  have valid := (leaves.usable _ List.prefix_rfl).serverName
  have stored :
      (SessionBuilder.built someNames [.serverAddr "[::1]:443"]).serverHost = "[::1]" := by
    decide
  rw [stored] at valid
  exact absurd valid (by decide)

end Builder

end NgrokRust
