import NgrokRust.AgentCalls
import NgrokRust.TunnelOptions

/-!
# Runs of builder calls

Whatever calls are made of a builder, and in whatever order, the tunnel it asks for is read
off their log: for each option the last value that was given, or all values in their order.
A run panics exactly if it sets a binding twice or sets one that is none.
-/

namespace NgrokRust

open JsonTrees CallLogs

namespace Config

variable {Num Float64 : Type}

namespace CommonCall

def allowCidr? : CommonCall Num → Option String
  | .allowCidr value => some value
  | _ => none

def denyCidr? : CommonCall Num → Option String
  | .denyCidr value => some value
  | _ => none

def proxyProto? : CommonCall Num → Option Proto.ProxyProto
  | .proxyProto value => some value
  | _ => none

def metadata? : CommonCall Num → Option String
  | .metadata value => some value
  | _ => none

def forwardsTo? : CommonCall Num → Option String
  | .forwardsTo value => some value
  | _ => none

def verifyUpstreamTls? : CommonCall Num → Option Bool
  | .verifyUpstreamTls value => some value
  | _ => none

def policy? : CommonCall Num → Option (Policies.Policy Num)
  | .policy (.ok value) => some value
  | _ => none

def trafficPolicy? : CommonCall Num → Option String
  | .trafficPolicy value => some value
  | _ => none

def poolingEnabled? : CommonCall Num → Option Bool
  | .poolingEnabled value => some value
  | _ => none

end CommonCall

namespace HttpCall

def common? : HttpCall Num Float64 → Option (CommonCall Num)
  | .common value => some value
  | _ => none

def binding? : HttpCall Num Float64 → Option String
  | .binding value => some value
  | _ => none

def appProtocol? : HttpCall Num Float64 → Option String
  | .appProtocol value => some value
  | _ => none

def scheme? : HttpCall Num Float64 → Option Scheme
  | .scheme value => some value
  | _ => none

def domain? : HttpCall Num Float64 → Option String
  | .domain value => some value
  | _ => none

def mutualTlsca? : HttpCall Num Float64 → Option (List UInt8)
  | .mutualTlsca value => some value
  | _ => none

def compression? : HttpCall Num Float64 → Option Bool
  | .compression => some true
  | _ => none

def websocketTcpConversion? : HttpCall Num Float64 → Option Bool
  | .websocketTcpConversion => some true
  | _ => none

def circuitBreaker? : HttpCall Num Float64 → Option Float64
  | .circuitBreaker value => some value
  | _ => none

def hostHeaderRewrite? : HttpCall Num Float64 → Option Bool
  | .hostHeaderRewrite value => some value
  | _ => none

def requestHeader? : HttpCall Num Float64 → Option (String × String)
  | .requestHeader name value => some (name, value)
  | _ => none

def responseHeader? : HttpCall Num Float64 → Option (String × String)
  | .responseHeader name value => some (name, value)
  | _ => none

def removeRequestHeader? : HttpCall Num Float64 → Option String
  | .removeRequestHeader value => some value
  | _ => none

def removeResponseHeader? : HttpCall Num Float64 → Option String
  | .removeResponseHeader value => some value
  | _ => none

def basicAuth? : HttpCall Num Float64 → Option (String × String)
  | .basicAuth username password => some (username, password)
  | _ => none

def oauth? : HttpCall Num Float64 → Option OauthOptions
  | .oauth value => some value
  | _ => none

def oidc? : HttpCall Num Float64 → Option OidcOptions
  | .oidc value => some value
  | _ => none

def webhookVerification? : HttpCall Num Float64 → Option WebhookVerification
  | .webhookVerification provider secret => some ⟨provider, ⟨secret⟩⟩
  | _ => none

def allowUserAgent? : HttpCall Num Float64 → Option String
  | .allowUserAgent value => some value
  | _ => none

def denyUserAgent? : HttpCall Num Float64 → Option String
  | .denyUserAgent value => some value
  | _ => none

end HttpCall

namespace TlsCall

def common? : TlsCall Num → Option (CommonCall Num)
  | .common value => some value
  | _ => none

def binding? : TlsCall Num → Option String
  | .binding value => some value
  | _ => none

def domain? : TlsCall Num → Option String
  | .domain value => some value
  | _ => none

def mutualTlsca? : TlsCall Num → Option (List UInt8)
  | .mutualTlsca value => some value
  | _ => none

def termination? : TlsCall Num → Option (List UInt8 × List UInt8)
  | .termination certPem keyPem => some (certPem, keyPem)
  | _ => none

end TlsCall

namespace TcpCall

def common? : TcpCall Num → Option (CommonCall Num)
  | .common value => some value
  | _ => none

def binding? : TcpCall Num → Option String
  | .binding value => some value
  | _ => none

def remoteAddr? : TcpCall Num → Option String
  | .remoteAddr value => some value
  | _ => none

end TcpCall

namespace LabeledCall

def metadata? : LabeledCall → Option String
  | .metadata value => some value
  | _ => none

def label? : LabeledCall → Option (String × String)
  | .label key value => some (key, value)
  | _ => none

def forwardsTo? : LabeledCall → Option String
  | .forwardsTo value => some value
  | _ => none

def appProtocol? : LabeledCall → Option String
  | .appProtocol value => some value
  | _ => none

def verifyUpstreamTls? : LabeledCall → Option Bool
  | .verifyUpstreamTls value => some value
  | _ => none

end LabeledCall

def CommonOpts.after (opts : CommonOpts Num) (calls : List (CommonCall Num)) :
    CommonOpts Num where
  cidrRestrictions :=
    ⟨allOf CommonCall.allowCidr? opts.cidrRestrictions.allowed calls,
      allOf CommonCall.denyCidr? opts.cidrRestrictions.denied calls⟩
  proxyProto := (lastOf CommonCall.proxyProto? calls).getD opts.proxyProto
  metadata := (lastOf CommonCall.metadata? calls).or opts.metadata
  forwardsTo := (lastOf CommonCall.forwardsTo? calls).or opts.forwardsTo
  forwardsProto := opts.forwardsProto
  verifyUpstreamTls := (lastOf CommonCall.verifyUpstreamTls? calls).or opts.verifyUpstreamTls
  policy := (lastOf CommonCall.policy? calls).or opts.policy
  trafficPolicy := (lastOf CommonCall.trafficPolicy? calls).or opts.trafficPolicy
  poolingEnabled := (lastOf CommonCall.poolingEnabled? calls).or opts.poolingEnabled

/-- Names of headers are in lower case, and a header that is set again has its last value. -/
def Headers.after {κ : Type} (env : Environment) (headers : Headers)
    (add? : κ → Option (String × String)) (remove? : κ → Option String) (calls : List κ) :
    Headers where
  added :=
    insertAll headers.added
      ((calls.filterMap add?).map fun entry => (env.toLowercase entry.1, entry.2))
  removed := allOf (fun call => (remove? call).map env.toLowercase) headers.removed calls

def HttpOptions.after (env : Environment) (options : HttpOptions Num Float64)
    (calls : List (HttpCall Num Float64)) : HttpOptions Num Float64 where
  commonOpts :=
    { options.commonOpts.after (calls.filterMap HttpCall.common?) with
      forwardsProto := (lastOf HttpCall.appProtocol? calls).or options.commonOpts.forwardsProto }
  scheme := (lastOf HttpCall.scheme? calls).getD options.scheme
  domain := (lastOf HttpCall.domain? calls).or options.domain
  mutualTlsca := allOf HttpCall.mutualTlsca? options.mutualTlsca calls
  compression := (lastOf HttpCall.compression? calls).getD options.compression
  websocketTcpConversion :=
    (lastOf HttpCall.websocketTcpConversion? calls).getD options.websocketTcpConversion
  circuitBreaker := (lastOf HttpCall.circuitBreaker? calls).getD options.circuitBreaker
  requestHeaders :=
    options.requestHeaders.after env HttpCall.requestHeader? HttpCall.removeRequestHeader? calls
  responseHeaders :=
    options.responseHeaders.after env HttpCall.responseHeader? HttpCall.removeResponseHeader? calls
  rewriteHost := (lastOf HttpCall.hostHeaderRewrite? calls).getD options.rewriteHost
  basicAuth := allOf HttpCall.basicAuth? options.basicAuth calls
  oauth := (lastOf HttpCall.oauth? calls).or options.oauth
  oidc := (lastOf HttpCall.oidc? calls).or options.oidc
  webhookVerification :=
    (lastOf HttpCall.webhookVerification? calls).or options.webhookVerification
  userAgentFilter :=
    ⟨allOf HttpCall.allowUserAgent? options.userAgentFilter.allow calls,
      allOf HttpCall.denyUserAgent? options.userAgentFilter.deny calls⟩
  bindings := allOf HttpCall.binding? options.bindings calls

def TlsOptions.after (options : TlsOptions Num) (calls : List (TlsCall Num)) :
    TlsOptions Num where
  commonOpts := options.commonOpts.after (calls.filterMap TlsCall.common?)
  domain := (lastOf TlsCall.domain? calls).or options.domain
  mutualTlsca := allOf TlsCall.mutualTlsca? options.mutualTlsca calls
  keyPem := ((lastOf TlsCall.termination? calls).map Prod.snd).or options.keyPem
  certPem := ((lastOf TlsCall.termination? calls).map Prod.fst).or options.certPem
  bindings := allOf TlsCall.binding? options.bindings calls

def TcpOptions.after (options : TcpOptions Num) (calls : List (TcpCall Num)) :
    TcpOptions Num where
  commonOpts := options.commonOpts.after (calls.filterMap TcpCall.common?)
  remoteAddr := (lastOf TcpCall.remoteAddr? calls).or options.remoteAddr
  bindings := allOf TcpCall.binding? options.bindings calls

def LabeledOptions.after (options : LabeledOptions Num) (calls : List LabeledCall) :
    LabeledOptions Num where
  commonOpts :=
    { options.commonOpts with
      metadata := (lastOf LabeledCall.metadata? calls).or options.commonOpts.metadata
      forwardsTo := (lastOf LabeledCall.forwardsTo? calls).or options.commonOpts.forwardsTo
      forwardsProto := (lastOf LabeledCall.appProtocol? calls).or options.commonOpts.forwardsProto
      verifyUpstreamTls :=
        (lastOf LabeledCall.verifyUpstreamTls? calls).or options.commonOpts.verifyUpstreamTls }
  labels := insertAll options.labels (calls.filterMap LabeledCall.label?)

theorem getD_or {α : Type} (first second : Option α) (default : α) :
    (first.or second).getD default = first.getD (second.getD default) := by
  cases first <;> rfl

theorem CommonOpts.after_append (opts : CommonOpts Num) (first second : List (CommonCall Num)) :
    (opts.after first).after second = opts.after (first ++ second) := by
  simp only [after, lastOf_append, allOf_append, Option.or_assoc, getD_or]

theorem Headers.after_append {κ : Type} (env : Environment) (headers : Headers)
    (add? : κ → Option (String × String)) (remove? : κ → Option String)
    (first second : List κ) :
    (headers.after env add? remove? first).after env add? remove? second =
      headers.after env add? remove? (first ++ second) := by
  simp only [after, insertAll_append, List.filterMap_append, List.map_append, allOf_append]

theorem HttpOptions.after_append (env : Environment) (options : HttpOptions Num Float64)
    (first second : List (HttpCall Num Float64)) :
    (options.after env first).after env second = options.after env (first ++ second) := by
  simp only [after, lastOf_append, allOf_append, List.filterMap_append, Option.or_assoc, getD_or,
    Headers.after_append, CommonOpts.after]

theorem TlsOptions.after_append (options : TlsOptions Num) (first second : List (TlsCall Num)) :
    (options.after first).after second = options.after (first ++ second) := by
  simp only [after, lastOf_append, allOf_append, List.filterMap_append, Option.or_assoc,
    Option.map_or, CommonOpts.after_append]

theorem TcpOptions.after_append (options : TcpOptions Num) (first second : List (TcpCall Num)) :
    (options.after first).after second = options.after (first ++ second) := by
  simp only [after, lastOf_append, allOf_append, List.filterMap_append, Option.or_assoc,
    CommonOpts.after_append]

theorem LabeledOptions.after_append (options : LabeledOptions Num)
    (first second : List LabeledCall) :
    (options.after first).after second = options.after (first ++ second) := by
  simp only [after, lastOf_append, List.filterMap_append, Option.or_assoc, insertAll_append]

/-- These bindings can be set one after the other, without a panic. -/
def Bindable (env : Environment) (before bindings : List String) : Prop :=
  bindings = [] ∨
    before = [] ∧ ∃ binding, bindings = [binding] ∧ Binding.validate env binding = true

/-- A builder whose calls do what their log says. A call that sets the binding may panic. -/
structure LoggedBuilder (env : Environment) (σ κ : Type) where
  call : σ → κ → Option σ
  after : σ → List κ → σ
  bindings : σ → List String
  binding? : κ → Option String
  after_nil : ∀ state, after state [] = state
  after_append : ∀ state first second,
    after (after state first) second = after state (first ++ second)
  bindings_after : ∀ state calls,
    bindings (after state calls) = bindings state ++ calls.filterMap binding?
  call_eq : ∀ state c, call state c =
    match binding? c with
    | none => some (after state [c])
    | some binding => (pushBinding env (bindings state) binding).map fun _ => after state [c]

namespace LoggedBuilder

variable {env : Environment} {σ κ : Type} (builder : LoggedBuilder env σ κ)

def run (state : σ) (calls : List κ) : Option σ := calls.foldlM builder.call state

theorem bindable_cons_iff {before rest : List String} {binding : String} :
    Bindable env before (binding :: rest) ↔
      before = [] ∧ Binding.validate env binding = true ∧ rest = [] := by
  constructor
  · rintro (none | ⟨empty, other, same, valid⟩)
    · cases none
    · cases same
      exact ⟨empty, valid, rfl⟩
  · rintro ⟨empty, valid, rfl⟩
    exact .inr ⟨empty, binding, rfl, valid⟩

/-- A run of calls does what their log says, unless the bindings make it panic. -/
theorem run_eq_some_iff {state result : σ} {calls : List κ} :
    builder.run state calls = some result ↔
      Bindable env (builder.bindings state) (calls.filterMap builder.binding?) ∧
        result = builder.after state calls := by
  induction calls generalizing state with
  | nil =>
      rw [run, List.foldlM_nil, builder.after_nil, List.filterMap_nil]
      constructor
      · rintro ⟨⟩
        exact ⟨.inl rfl, rfl⟩
      · rintro ⟨-, rfl⟩
        rfl
  | cons c calls ih =>
      have later :
          builder.after (builder.after state [c]) calls = builder.after state (c :: calls) :=
        builder.after_append state [c] calls
      have bound := builder.bindings_after state [c]
      rw [run, List.foldlM_cons, builder.call_eq]
      cases binding : builder.binding? c with
      | none =>
          rw [List.filterMap_cons_none binding, List.filterMap_nil, List.append_nil] at bound
          rw [List.filterMap_cons_none binding, ← bound, ← later]
          exact ih
      | some binding' =>
          rw [List.filterMap_cons_some binding, List.filterMap_nil] at bound
          rw [List.filterMap_cons_some binding, bindable_cons_iff]
          simp only [pushBinding]
          by_cases empty : builder.bindings state = []
          · by_cases valid : Binding.validate env binding' = true
            · simp only [empty, valid, ne_eq, not_true_eq_false, if_false, if_true,
                Option.map_some, true_and]
              refine ih.trans ?_
              rw [bound, empty, later]
              simp [Bindable]
            · simp [empty, valid]
          · simp [empty]

end LoggedBuilder

section Builders

variable (env : Environment)

theorem pushBinding_map {β : Type} {bindings : List String} {binding : String}
    (change : List String → β) :
    (pushBinding env bindings binding).map change =
      (pushBinding env bindings binding).map fun _ => change (bindings ++ [binding]) := by
  unfold pushBinding
  split
  · rfl
  · split <;> rfl

def httpBuilder : LoggedBuilder env (HttpOptions Num Float64) (HttpCall Num Float64) where
  call := HttpOptions.call env
  after := HttpOptions.after env
  bindings := HttpOptions.bindings
  binding? := HttpCall.binding?
  after_nil _ := rfl
  after_append := HttpOptions.after_append env
  bindings_after _ _ := allOf_eq _ _ _
  call_eq state call := by
    cases call with
    | common call =>
        cases call with
        | policy policy => cases policy <;> rfl
        | _ => rfl
    | binding binding => exact pushBinding_map env _
    | _ => rfl

def tlsBuilder : LoggedBuilder env (TlsOptions Num) (TlsCall Num) where
  call := TlsOptions.call env
  after := TlsOptions.after
  bindings := TlsOptions.bindings
  binding? := TlsCall.binding?
  after_nil _ := rfl
  after_append := TlsOptions.after_append
  bindings_after _ _ := allOf_eq _ _ _
  call_eq state call := by
    cases call with
    | common call =>
        cases call with
        | policy policy => cases policy <;> rfl
        | _ => rfl
    | binding binding => exact pushBinding_map env _
    | _ => rfl

def tcpBuilder : LoggedBuilder env (TcpOptions Num) (TcpCall Num) where
  call := TcpOptions.call env
  after := TcpOptions.after
  bindings := TcpOptions.bindings
  binding? := TcpCall.binding?
  after_nil _ := rfl
  after_append := TcpOptions.after_append
  bindings_after _ _ := allOf_eq _ _ _
  call_eq state call := by
    cases call with
    | common call =>
        cases call with
        | policy policy => cases policy <;> rfl
        | _ => rfl
    | binding binding => exact pushBinding_map env _
    | remoteAddr remoteAddr => rfl

end Builders

theorem LabeledOptions.foldl_call (options : LabeledOptions Num) (calls : List LabeledCall) :
    calls.foldl LabeledOptions.call options = options.after calls := by
  induction calls generalizing options with
  | nil => rfl
  | cons call calls ih =>
      have first : options.call call = options.after [call] := by
        cases call <;> rfl
      rw [List.foldl_cons, ih, first]
      exact LabeledOptions.after_append options [call] calls

/-- The call that a forwarded HTTP tunnel makes for its host. -/
def hostCalls (options : HttpOptions Num Float64) (toUrl : Builder.Url) :
    List (HttpCall Num Float64) :=
  match toUrl.hostStr.filter fun _ => options.rewriteHost with
  | some host => [.requestHeader "host" host]
  | none => []

theorem HttpOptions.forForwardingTo_eq (env : Environment) (options : HttpOptions Num Float64)
    (toUrl : Builder.Url) :
    options.forForwardingTo env toUrl =
      options.after env (.common (.forwardsTo toUrl.asStr) :: hostCalls options toUrl) := by
  unfold HttpOptions.forForwardingTo hostCalls
  dsimp only
  cases toUrl.hostStr.filter fun _ => options.rewriteHost <;> rfl

/-- Every builder is read off the log of its calls, and panics only for its bindings. To
forward a tunnel is to set its URL, and its host where that is asked for, after all other
calls. -/
theorem builders_run (env : Environment) (zero : Float64) (toUrl : Builder.Url) :
    (∀ (calls : List (HttpCall Num Float64)) options,
      (httpBuilder env).run (.default zero) calls = some options ↔
        Bindable env [] (calls.filterMap HttpCall.binding?) ∧
          options = (HttpOptions.default zero).after env calls) ∧
    (∀ (calls : List (TlsCall Num)) options,
      (tlsBuilder env).run .default calls = some options ↔
        Bindable env [] (calls.filterMap TlsCall.binding?) ∧
          options = TlsOptions.default.after calls) ∧
    (∀ (calls : List (TcpCall Num)) options,
      (tcpBuilder env).run .default calls = some options ↔
        Bindable env [] (calls.filterMap TcpCall.binding?) ∧
          options = TcpOptions.default.after calls) ∧
    (∀ calls : List LabeledCall,
      calls.foldl LabeledOptions.call (.default : LabeledOptions Num) =
        LabeledOptions.default.after calls) ∧
    (∀ options : HttpOptions Num Float64, options.forForwardingTo env toUrl =
      options.after env (.common (.forwardsTo toUrl.asStr) :: hostCalls options toUrl)) ∧
    (∀ options : TlsOptions Num, options.forForwardingTo toUrl =
      options.after [.common (.forwardsTo toUrl.asStr)]) ∧
    (∀ options : TcpOptions Num, options.forForwardingTo toUrl =
      options.after [.common (.forwardsTo toUrl.asStr)]) ∧
    ∀ options : LabeledOptions Num, options.forForwardingTo toUrl =
      options.after [.forwardsTo toUrl.asStr] :=
  ⟨fun _ _ => (httpBuilder env).run_eq_some_iff, fun _ _ => (tlsBuilder env).run_eq_some_iff,
    fun _ _ => (tcpBuilder env).run_eq_some_iff, fun _ => LabeledOptions.foldl_call _ _,
    fun _ => HttpOptions.forForwardingTo_eq env _ toUrl, fun _ => rfl, fun _ => rfl, fun _ => rfl⟩

theorem lastOf_map {κ α β γ : Type} (select : γ → Option β) (change : α → γ)
    (from? : κ → Option α) (calls : List κ) :
    lastOf select ((calls.filterMap from?).map change) =
      lastOf (fun call => (from? call).bind fun item => select (change item)) calls := by
  rw [lastOf, lastOf, List.filterMap_map, List.filterMap_filterMap]
  rfl

/-- The value that calls give to the header of this name, in whatever case they name it. -/
def headerValue {κ : Type} (env : Environment) (add? : κ → Option (String × String))
    (name : String) (calls : List κ) : Option String :=
  lastOf (fun call => (add? call).bind fun entry =>
    if env.toLowercase entry.1 = name then some entry.2 else none) calls

theorem Headers.mem_added_iff {κ : Type} {env : Environment}
    {add? : κ → Option (String × String)} {remove? : κ → Option String} {calls : List κ}
    {name value : String} :
    (name, value) ∈ (Headers.after env ⟨[], []⟩ add? remove? calls).added ↔
      headerValue env add? name calls = some value := by
  rw [Headers.after, mem_insertAll_iff, lastOf_map, headerValue]

/-- Headers that are sent: each header once, with the value that it was given last. -/
theorem Headers.toProto_after {κ : Type} {env : Environment} (lawful : env.Lawful)
    (add? : κ → Option (String × String)) (remove? : κ → Option String) (calls : List κ) :
    ∃ entries : List (String × String), (entries.map Prod.fst).Nodup ∧
      (∀ name value, (name, value) ∈ entries ↔ headerValue env add? name calls = some value) ∧
      (Headers.after env ⟨[], []⟩ add? remove? calls).toProto env =
        ⟨entries.map fun entry => entry.1 ++ ":" ++ entry.2,
          calls.filterMap fun call => (remove? call).map env.toLowercase, []⟩ := by
  have perm := lawful (Headers.after env ⟨[], []⟩ add? remove? calls).added
  refine ⟨env.iter (Headers.after env ⟨[], []⟩ add? remove? calls).added, ?_, ?_, ?_⟩
  · exact (perm.map Prod.fst).nodup_iff.2 (keys_insertAll_nodup (by simp) _)
  · intro name value
    rw [perm.mem_iff, Headers.mem_added_iff]
  · rw [Headers.toProto]
    exact congrArg (Proto.Headers.mk _ · []) (allOf_eq _ _ _)

/-- Two names in lower case, and a map that yields what was put in last first. -/
def foldingCase : Environment where
  toLowercase name := if name = "A" then "a" else if name = "B" then "b" else name
  toUppercase name := name
  iter := List.reverse
  defaultForwardsTo := "app"

def headerCalls : List (HttpCall Int Unit) :=
  [.requestHeader "A" "first", .requestHeader "c" "other", .removeRequestHeader "B",
    .requestHeader "a" "last"]

/-- Names that differ only in case are one header. -/
theorem Headers.toProto_after_cases :
    ∃ entries : List (String × String), (entries.map Prod.fst).Nodup ∧
      (∀ name value, (name, value) ∈ entries ↔
        headerValue foldingCase HttpCall.requestHeader? name headerCalls = some value) ∧
      (Headers.after foldingCase ⟨[], []⟩ HttpCall.requestHeader?
          HttpCall.removeRequestHeader? headerCalls).toProto foldingCase =
        ⟨entries.map fun entry => entry.1 ++ ":" ++ entry.2, ["b"], []⟩ :=
  Headers.toProto_after (fun entries => entries.reverse_perm) _ _ headerCalls

section Listening

variable {env : Environment} {formats : Formats Num Float64} {text : Text Num}

theorem valid_toProto {policy : Policies.Policy Num} (carried : Carried text policy) :
    (policy.toProto text).Valid text :=
  Proto.Policy.serialize_ok_iff.1 ⟨_, serialize_policy carried⟩

/-- A text for a policy is sent as it is, and it goes before a policy that was built. -/
theorem valid_wrappedPolicy {opts : CommonOpts Num}
    (carried : ∀ policy ∈ opts.policy, Carried text policy) :
    ∀ wrapper ∈ opts.wrappedPolicy text, wrapper.Valid text := by
  intro wrapper mem
  unfold CommonOpts.wrappedPolicy at mem
  split at mem
  · obtain ⟨string, -, rfl⟩ := Option.map_eq_some_iff.1 mem
    intro value same
    cases same
  · split at mem
    · obtain ⟨policy, set, rfl⟩ := Option.map_eq_some_iff.1 mem
      intro value same
      cases same
      exact valid_toProto (carried policy set)
    · cases mem

theorem HttpOptions.sendable_endpoint {options : HttpOptions Num Float64}
    (finite : formats.isZero options.circuitBreaker = false →
      formats.ReadsBack options.circuitBreaker) :
    (options.endpoint env formats text).Sendable formats where
  circuitBreaker := by
    intro breaker mem nonzero
    simp only [HttpOptions.endpoint] at mem
    split at mem
    · cases mem
    · cases mem
      exact finite nonzero
  requestHeaders := by
    intro headers mem
    simp only [HttpOptions.endpoint] at mem
    split at mem
    · cases mem
      exact List.nodup_nil
    · cases mem
  responseHeaders := by
    intro headers mem
    simp only [HttpOptions.endpoint] at mem
    split at mem
    · cases mem
      exact List.nodup_nil
    · cases mem

/-- The request of `start_tunnel` for a tunnel that has options. -/
def TunnelConfig.request (config : TunnelConfig Float64) (opts : Proto.BindOpts Float64) :
    Proto.Bind (Proto.BindOpts Float64) :=
  Rpc.listenRequest config.proto opts config.extra "" config.forwardsTo config.forwardsProto

/-- The records that options of this variant are bound with. -/
abbrev bindRecord (formats : Formats Num Float64) (text : Text Num)
    (like : Proto.BindOpts Float64) :
    Record Num (Proto.Bind (Proto.BindOpts Float64)) (Proto.Bind (Proto.BindOpts Float64)) :=
  Proto.Bind.record (Proto.BindOpts.formatLike formats text like)

abbrev bindRespRecord (formats : Formats Num Float64) (text : Text Num)
    (like : Proto.BindOpts Float64) :
    Record Num (Proto.BindResp (Proto.BindOpts Float64))
      (Proto.BindResp (Proto.BindOpts Float64)) :=
  Proto.BindResp.record (Proto.BindOpts.formatLike formats text like)

theorem HttpOptions.carries (lawful : formats.Lawful) {options : HttpOptions Num Float64}
    (sendable : (options.endpoint env formats text).Sendable formats)
    (valid : ∀ wrapper ∈ options.commonOpts.wrappedPolicy text, wrapper.Valid text) :
    (bindRecord formats text (.http (options.endpoint env formats text))).format.Carries
      ((options.config env formats text).request (.http (options.endpoint env formats text)))
      ((options.config env formats text).request
        (.http ((options.endpoint env formats text).onWire formats text))) := by
  have opts : (Proto.BindOpts.formatLike formats text
      (.http (options.endpoint env formats text))).Carries
        (.http (options.endpoint env formats text))
        (.http ((options.endpoint env formats text).onWire formats text)) :=
    Proto.BindOpts.carries lawful sendable valid
  exact Proto.Bind.carries opts

/-- The threshold that was set last is the one that is sent. -/
theorem sendable_after (lawful : formats.Lawful) {calls : List (HttpCall Num Float64)}
    (finite : ∀ threshold, lastOf HttpCall.circuitBreaker? calls = some threshold →
      formats.isZero threshold = false → formats.ReadsBack threshold) :
    (((HttpOptions.default formats.zero).after env calls).endpoint env formats
      text).Sendable formats := by
  apply HttpOptions.sendable_endpoint
  intro nonzero
  simp only [HttpOptions.after, HttpOptions.default] at nonzero ⊢
  cases set : lastOf HttpCall.circuitBreaker? calls with
  | none =>
      rw [set, Option.getD_none, lawful.isZero_zero] at nonzero
      cases nonzero
  | some threshold =>
      rw [set] at nonzero
      exact finite threshold set nonzero

theorem valid_after {zero : Float64} {calls : List (HttpCall Num Float64)}
    (policies : ∀ policy, lastOf CommonCall.policy? (calls.filterMap HttpCall.common?) =
      some policy → Carried text policy) :
    ∀ wrapper ∈ ((HttpOptions.default zero).after env calls).commonOpts.wrappedPolicy text,
      wrapper.Valid text := by
  apply valid_wrappedPolicy
  intro policy set
  apply policies
  simpa [HttpOptions.after, HttpOptions.default, CommonOpts.after, CommonOpts.default] using set

end Listening

def guardedCalls : List (HttpCall Proto.Numeral Nat) :=
  [.binding "public", .domain "first.example", .compression, .circuitBreaker 5,
    .requestHeader "A" "value", .removeRequestHeader "B", .common (.proxyProto .v2),
    .common (.allowCidr "10.0.0.0/8"), .basicAuth "user" "password",
    .webhookVerification "github" "secret", .mutualTlsca [0x2d, 0x0a], .denyUserAgent "curl.*",
    .common (.metadata "shop"), .common (.poolingEnabled true),
    .common (.policy (.ok Proto.guardPolicy)), .domain "shop.example"]

def guardedOptions : HttpOptions Proto.Numeral Nat :=
  (HttpOptions.default 0).after foldingCase guardedCalls

end Config

end NgrokRust
