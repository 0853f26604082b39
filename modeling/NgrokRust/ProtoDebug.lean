import NgrokRust.ProtoMessages

/-!
# What the debug text of the requests tells

`rpc`, `listen` and `try_reconnect` write the debug text of their requests to the log.
Tokens, cookies, client secrets, webhook secrets and private keys have a type whose text is
a mask, so the text is the same whatever they are.  The passwords of the basic
authentication have the types `String` and `Vec<u8>`, whose text is unambiguous: they can be
read off the log.
-/

namespace NgrokRust

namespace Proto

open DebugText DebugText.Debug

section WithoutCredentials

variable {Float64 : Type*}

def AuthExtra.withoutCredentials (extra : AuthExtra) : AuthExtra :=
  { extra with authToken := default, cookie := default }

def Auth.withoutCredentials (auth : Auth) : Auth :=
  { auth with extra := auth.extra.withoutCredentials }

def BindExtra.withoutCredentials (extra : BindExtra) : BindExtra :=
  { extra with token := default }

def BasicAuthCredential.withoutCredentials (credential : BasicAuthCredential) :
    BasicAuthCredential :=
  { credential with cleartextPassword := default, hashedPassword := default }

def BasicAuth.withoutCredentials (basicAuth : BasicAuth) : BasicAuth :=
  { basicAuth with
    credentials := basicAuth.credentials.map BasicAuthCredential.withoutCredentials }

def Oauth.withoutCredentials (oauth : Oauth) : Oauth :=
  { oauth with clientSecret := default }

def Oidc.withoutCredentials (oidc : Oidc) : Oidc :=
  { oidc with clientSecret := default }

def WebhookVerification.withoutCredentials (webhook : WebhookVerification) :
    WebhookVerification :=
  { webhook with secret := default }

def TlsTermination.withoutCredentials (termination : TlsTermination) : TlsTermination :=
  { termination with key := default }

def HttpEndpoint.withoutCredentials (endpoint : HttpEndpoint Float64) :
    HttpEndpoint Float64 :=
  { endpoint with
    basicAuth := endpoint.basicAuth.map BasicAuth.withoutCredentials
    oauth := endpoint.oauth.map Oauth.withoutCredentials
    oidc := endpoint.oidc.map Oidc.withoutCredentials
    webhookVerification :=
      endpoint.webhookVerification.map WebhookVerification.withoutCredentials }

def TlsEndpoint.withoutCredentials (endpoint : TlsEndpoint) : TlsEndpoint :=
  { endpoint with
    tlsTermination := endpoint.tlsTermination.map TlsTermination.withoutCredentials }

def BindOpts.withoutCredentials : BindOpts Float64 → BindOpts Float64
  | .http endpoint => .http endpoint.withoutCredentials
  | .tcp endpoint => .tcp endpoint
  | .tls endpoint => .tls endpoint.withoutCredentials

def Bind.withoutCredentials {T : Type*} (strip : T → T) (bind : Bind T) : Bind T :=
  { bind with opts := strip bind.opts, extra := bind.extra.withoutCredentials }

end WithoutCredentials

section Masked

variable {Float64 : Type*} (f : Formatter Float64)

theorem fmt_auth (auth : Auth) : fmt f auth.withoutCredentials = fmt f auth := rfl

theorem fmt_bindExtra (extra : BindExtra) : fmt f extra.withoutCredentials = fmt f extra := rfl

theorem fmt_oauth (oauth : Oauth) : fmt f oauth.withoutCredentials = fmt f oauth := rfl

theorem fmt_oidc (oidc : Oidc) : fmt f oidc.withoutCredentials = fmt f oidc := rfl

theorem fmt_webhookVerification (webhook : WebhookVerification) :
    fmt f webhook.withoutCredentials = fmt f webhook := rfl

theorem fmt_tlsTermination (termination : TlsTermination) :
    fmt f termination.withoutCredentials = fmt f termination := rfl

variable {f} in
theorem fmt_option_map {α : Type*} [Debug Float64 α] {strip : α → α}
    (masked : ∀ value : α, fmt f (strip value) = fmt f value) (value : Option α) :
    fmt f (value.map strip) = fmt f value := by
  cases value with
  | none => rfl
  | some value => exact (fmt_some_inj f _ _).2 (masked value)

theorem fmt_tlsEndpoint (endpoint : TlsEndpoint) :
    fmt f endpoint.withoutCredentials = fmt f endpoint :=
  (debugStruct_field "TlsEndpoint" [_, _, _, _, _, _] [_, _] "tls_termination").2
    (fmt_option_map (fmt_tlsTermination f) endpoint.tlsTermination)

/-- Only the basic authentication matters for the text of an endpoint. -/
theorem fmt_httpEndpoint (endpoint : HttpEndpoint Float64) :
    fmt f { endpoint.withoutCredentials with basicAuth := endpoint.basicAuth } =
      fmt f endpoint := by
  calc
    fmt f { endpoint.withoutCredentials with basicAuth := endpoint.basicAuth }
        = fmt f { endpoint with
            oidc := endpoint.oidc.map Oidc.withoutCredentials
            webhookVerification :=
              endpoint.webhookVerification.map WebhookVerification.withoutCredentials } :=
      (debugStruct_field "HttpEndpoint" [_, _, _, _, _, _, _, _, _, _, _]
        [_, _, _, _, _, _, _, _] "oauth").2 (fmt_option_map (fmt_oauth f) endpoint.oauth)
    _ = fmt f { endpoint with
          webhookVerification :=
            endpoint.webhookVerification.map WebhookVerification.withoutCredentials } :=
      (debugStruct_field "HttpEndpoint" [_, _, _, _, _, _, _, _, _, _, _, _]
        [_, _, _, _, _, _, _] "oidc").2 (fmt_option_map (fmt_oidc f) endpoint.oidc)
    _ = fmt f endpoint :=
      (debugStruct_field "HttpEndpoint" [_, _, _, _, _, _, _, _, _, _, _, _, _]
        [_, _, _, _, _, _] "webhook_verification").2
        (fmt_option_map (fmt_webhookVerification f) endpoint.webhookVerification)

theorem fmt_bindExtra_congr {extra extra' : BindExtra}
    (differ : extra.withoutCredentials = extra'.withoutCredentials) :
    fmt f extra = fmt f extra' := by
  rw [← fmt_bindExtra f extra, ← fmt_bindExtra f extra', differ]

theorem fmt_tlsEndpoint_congr {endpoint endpoint' : TlsEndpoint}
    (differ : endpoint.withoutCredentials = endpoint'.withoutCredentials) :
    fmt f endpoint = fmt f endpoint' := by
  rw [← fmt_tlsEndpoint f endpoint, ← fmt_tlsEndpoint f endpoint', differ]

end Masked

section Passwords

variable {Float64 : Type*}

def BasicAuthCredential.passwords (credential : BasicAuthCredential) : String × List UInt8 :=
  (credential.cleartextPassword, credential.hashedPassword)

def BasicAuth.passwords (basicAuth : BasicAuth) : List (String × List UInt8) :=
  basicAuth.credentials.map BasicAuthCredential.passwords

def HttpEndpoint.passwords (endpoint : HttpEndpoint Float64) :
    Option (List (String × List UInt8)) :=
  endpoint.basicAuth.map BasicAuth.passwords

def BindOpts.passwords : BindOpts Float64 → Option (List (String × List UInt8))
  | .http endpoint => endpoint.passwords
  | .tcp _ => none
  | .tls _ => none

theorem BasicAuthCredential.eq_iff {first second : BasicAuthCredential}
    (differ : first.withoutCredentials = second.withoutCredentials) :
    first.passwords = second.passwords ↔ first = second := by
  obtain ⟨username, cleartext, hashed⟩ := first
  obtain ⟨username', cleartext', hashed'⟩ := second
  simp only [BasicAuthCredential.withoutCredentials, BasicAuthCredential.mk.injEq, and_true]
    at differ
  simp [BasicAuthCredential.passwords, differ]

theorem BasicAuth.eq_iff {first second : BasicAuth}
    (differ : first.withoutCredentials = second.withoutCredentials) :
    first.passwords = second.passwords ↔ first = second := by
  obtain ⟨credentials⟩ := first
  obtain ⟨credentials'⟩ := second
  simp only [BasicAuth.withoutCredentials, BasicAuth.mk.injEq] at differ
  simp only [BasicAuth.passwords, BasicAuth.mk.injEq]
  induction credentials generalizing credentials' with
  | nil =>
      cases credentials' with
      | nil => simp
      | cons credential' tail' => simp at differ
  | cons credential tail ih =>
      cases credentials' with
      | nil => simp at differ
      | cons credential' tail' =>
          simp only [List.map_cons, List.cons.injEq] at differ ⊢
          rw [BasicAuthCredential.eq_iff differ.1, ih tail' differ.2]

theorem HttpEndpoint.basicAuth_eq_iff {first second : HttpEndpoint Float64}
    (differ : first.withoutCredentials = second.withoutCredentials) :
    first.passwords = second.passwords ↔ first.basicAuth = second.basicAuth := by
  have basicAuths := congrArg HttpEndpoint.basicAuth differ
  simp only [HttpEndpoint.withoutCredentials] at basicAuths
  simp only [HttpEndpoint.passwords]
  cases shape : first.basicAuth with
  | none =>
      cases shape' : second.basicAuth with
      | none => simp
      | some basicAuth' => simp
  | some basicAuth =>
      cases shape' : second.basicAuth with
      | none => simp
      | some basicAuth' =>
          rw [shape, shape'] at basicAuths
          simp only [Option.map_some, Option.some.injEq] at basicAuths ⊢
          exact BasicAuth.eq_iff basicAuths

end Passwords

section Shown

variable {Float64 : Type*} (f : Formatter Float64)

theorem fmt_basicAuthCredential (credential : BasicAuthCredential) (rest : List Char) :
    fmt f credential ++ rest =
      "BasicAuthCredential \x7b username: ".toList ++ (fmt f credential.username ++
        (", cleartext_password: ".toList ++ (fmt f credential.cleartextPassword ++
          (", hashed_password: ".toList ++ (fmt f credential.hashedPassword ++
            (" \x7d".toList ++ rest)))))) := by
  change debugStruct "BasicAuthCredential" [
    ("username", fmt f credential.username),
    ("cleartext_password", fmt f credential.cleartextPassword),
    ("hashed_password", fmt f credential.hashedPassword)] ++ rest = _
  generalize fmt f credential.username = username
  generalize fmt f credential.cleartextPassword = cleartext
  generalize fmt f credential.hashedPassword = hashed
  simp [debugStruct, commaSeparated]

theorem unambiguous_basicAuthCredential :
    Unambiguous (fmt f : BasicAuthCredential → List Char) where
  reads := by
    rintro ⟨username, cleartext, hashed⟩ ⟨username', cleartext', hashed'⟩ rest other _ _ same
    rw [fmt_basicAuthCredential, fmt_basicAuthCredential, List.append_cancel_left_eq] at same
    have comma (text : List Char) : Boundary (", cleartext_password: ".toList ++ text) :=
      boundary_cons (c := ',') (by simp)
    have comma' (text : List Char) : Boundary (", hashed_password: ".toList ++ text) :=
      boundary_cons (c := ',') (by simp)
    have close (text : List Char) : Boundary (" \x7d".toList ++ text) :=
      boundary_cons (c := ' ') (by simp)
    obtain ⟨rfl, others⟩ := (unambiguous_string f).reads (comma _) (comma _) same
    obtain ⟨rfl, hashes⟩ := (unambiguous_string f).reads (comma' _) (comma' _)
      (List.append_cancel_left others)
    obtain ⟨rfl, ends⟩ := (unambiguous_list (unambiguous_uint8 f)).reads (close _) (close _)
      (List.append_cancel_left hashes)
    exact ⟨rfl, List.append_cancel_left ends⟩
  opens := by
    intro credential rest other
    rw [fmt_basicAuthCredential]
    simp

theorem fmt_basicAuth_injective : Function.Injective (fmt f : BasicAuth → List Char) := by
  rintro ⟨credentials⟩ ⟨credentials'⟩ same
  have lists : fmt f credentials = fmt f credentials' :=
    (debugStruct_field "BasicAuth" [] [] "credentials").1 same
  rw [(unambiguous_list (unambiguous_basicAuthCredential f)).injective lists]

theorem HttpEndpoint.fmt_eq_iff {first second : HttpEndpoint Float64}
    (differ : first.withoutCredentials = second.withoutCredentials) :
    fmt f first = fmt f second ↔ first.passwords = second.passwords := by
  rw [HttpEndpoint.basicAuth_eq_iff differ, ← fmt_httpEndpoint f first,
    ← fmt_httpEndpoint f second, differ]
  exact (debugStruct_field "HttpEndpoint" [_, _, _, _, _, _, _, _, _, _]
    [_, _, _, _, _, _, _, _, _] "basic_auth").trans
    (fmt_option_injective (fmt_basicAuth_injective f)).eq_iff

theorem BindOpts.fmt_eq_iff {first second : BindOpts Float64}
    (differ : first.withoutCredentials = second.withoutCredentials) :
    fmt f first = fmt f second ↔ first.passwords = second.passwords := by
  cases first with
  | http endpoint =>
      cases second with
      | http endpoint' =>
          simp only [BindOpts.withoutCredentials, BindOpts.http.injEq] at differ
          rw [BindOpts.passwords, BindOpts.passwords, ← HttpEndpoint.fmt_eq_iff f differ]
          exact debugTuple_inj "Http"
      | tcp endpoint' => simp [BindOpts.withoutCredentials] at differ
      | tls endpoint' => simp [BindOpts.withoutCredentials] at differ
  | tcp endpoint =>
      cases second with
      | http endpoint' => simp [BindOpts.withoutCredentials] at differ
      | tcp endpoint' =>
          simp only [BindOpts.withoutCredentials, BindOpts.tcp.injEq] at differ
          simp [differ]
      | tls endpoint' => simp [BindOpts.withoutCredentials] at differ
  | tls endpoint =>
      cases second with
      | http endpoint' => simp [BindOpts.withoutCredentials] at differ
      | tcp endpoint' => simp [BindOpts.withoutCredentials] at differ
      | tls endpoint' =>
          simp only [BindOpts.withoutCredentials, BindOpts.tls.injEq] at differ
          simp only [BindOpts.passwords, iff_true]
          exact (debugTuple_inj "Tls").2 (fmt_tlsEndpoint_congr f differ)

theorem Bind.fmt_eq_iff {T : Type*} [Debug Float64 T] (strip : T → T) {first second : Bind T}
    (differ : first.withoutCredentials strip = second.withoutCredentials strip) :
    fmt f first = fmt f second ↔ fmt f first.opts = fmt f second.opts := by
  have unstripped (bind : Bind T) :
      fmt f { bind.withoutCredentials strip with opts := bind.opts } = fmt f bind := rfl
  rw [← unstripped first, ← unstripped second, differ]
  exact debugStruct_field "Bind" [_, _, _, _] [_] "opts"

end Shown

section Log

variable {Float64 : Type*} (f : Formatter Float64)

/-- The request that `listen` makes, as `rpc` writes it to the log. -/
def bindReq (protocol : String) (opts : BindOpts Float64) (extra : BindExtra)
    (id forwardsTo forwardsProto : String) : List Char :=
  match opts with
  | .http opts => fmt f (Bind.mk id protocol forwardsTo forwardsProto opts extra)
  | .tcp opts => fmt f (Bind.mk id protocol forwardsTo forwardsProto opts extra)
  | .tls opts => fmt f (Bind.mk id protocol forwardsTo forwardsProto opts extra)

/-- What `listen` writes to the log with its arguments, and `rpc` with the request. -/
def listenLog (protocol : String) (opts : BindOpts Float64) (extra : BindExtra)
    (id forwardsTo forwardsProto : String) : List (String × List Char) :=
  [("protocol", fmt f protocol), ("opts", fmt f opts), ("extra", fmt f extra),
    ("id", fmt f id), ("forwards_to", fmt f forwardsTo),
    ("forwards_proto", fmt f forwardsProto),
    ("req", bindReq f protocol opts extra id forwardsTo forwardsProto)]

/-- What `try_reconnect` writes to the log when a tunnel is bound again.  The text of the
response is a parameter. -/
def reboundLog (resp : List Char) (id proto : String) (opts : Option (BindOpts Float64))
    (extra : BindExtra) (forwardsTo : String) : List (String × List Char) :=
  [("resp", resp), ("id", id.toList), ("tun.proto", proto.toList), ("tun.opts", fmt f opts),
    ("tun.extra", fmt f extra), ("tun.forwards_to", forwardsTo.toList)]

variable {opts opts' : BindOpts Float64} {extra extra' : BindExtra}
  (sameOpts : opts.withoutCredentials = opts'.withoutCredentials)
  (sameExtra : extra.withoutCredentials = extra'.withoutCredentials)

include sameOpts sameExtra

theorem reboundLog_eq_iff (resp : List Char) (id proto forwardsTo : String) :
    reboundLog f resp id proto (some opts) extra forwardsTo =
        reboundLog f resp id proto (some opts') extra' forwardsTo ↔
      opts.passwords = opts'.passwords := by
  simp only [reboundLog, fmt_bindExtra_congr f sameExtra, List.cons.injEq, Prod.mk.injEq,
    true_and, and_true, fmt_some_inj]
  exact BindOpts.fmt_eq_iff f sameOpts

theorem bindReq_eq_iff (protocol id forwardsTo forwardsProto : String) :
    bindReq f protocol opts extra id forwardsTo forwardsProto =
        bindReq f protocol opts' extra' id forwardsTo forwardsProto ↔
      opts.passwords = opts'.passwords := by
  cases opts with
  | http endpoint =>
      cases opts' with
      | http endpoint' =>
          simp only [BindOpts.withoutCredentials, BindOpts.http.injEq] at sameOpts
          rw [BindOpts.passwords, BindOpts.passwords, ← HttpEndpoint.fmt_eq_iff f sameOpts]
          apply Bind.fmt_eq_iff f HttpEndpoint.withoutCredentials
          simp only [Bind.withoutCredentials, sameOpts, sameExtra]
      | tcp endpoint' => simp [BindOpts.withoutCredentials] at sameOpts
      | tls endpoint' => simp [BindOpts.withoutCredentials] at sameOpts
  | tcp endpoint =>
      cases opts' with
      | http endpoint' => simp [BindOpts.withoutCredentials] at sameOpts
      | tcp endpoint' =>
          simp only [BindOpts.withoutCredentials, BindOpts.tcp.injEq] at sameOpts
          simp only [BindOpts.passwords, iff_true, bindReq]
          apply (Bind.fmt_eq_iff f (fun opts => opts) _).2
          · exact congrArg (fmt f) sameOpts
          · simp only [Bind.withoutCredentials, sameOpts, sameExtra]
      | tls endpoint' => simp [BindOpts.withoutCredentials] at sameOpts
  | tls endpoint =>
      cases opts' with
      | http endpoint' => simp [BindOpts.withoutCredentials] at sameOpts
      | tcp endpoint' => simp [BindOpts.withoutCredentials] at sameOpts
      | tls endpoint' =>
          simp only [BindOpts.withoutCredentials, BindOpts.tls.injEq] at sameOpts
          simp only [BindOpts.passwords, iff_true, bindReq]
          apply (Bind.fmt_eq_iff f TlsEndpoint.withoutCredentials _).2
          · exact fmt_tlsEndpoint_congr f sameOpts
          · simp only [Bind.withoutCredentials, sameOpts, sameExtra]

theorem listenLog_eq_iff (protocol id forwardsTo forwardsProto : String) :
    listenLog f protocol opts extra id forwardsTo forwardsProto =
        listenLog f protocol opts' extra' id forwardsTo forwardsProto ↔
      opts.passwords = opts'.passwords := by
  have texts := BindOpts.fmt_eq_iff f sameOpts
  have requests := bindReq_eq_iff f sameOpts sameExtra protocol id forwardsTo forwardsProto
  simp only [listenLog, fmt_bindExtra_congr f sameExtra, List.cons.injEq, Prod.mk.injEq,
    true_and, and_true, texts, requests, and_self]

end Log

section Logged

variable {Float64 : Type*}

/-- The values with credentials whose debug text is logged. -/
inductive Logged (Float64 : Type*)
  | auth (value : Auth)
  | bindHttp (value : Bind (HttpEndpoint Float64))
  | bindTls (value : Bind TlsEndpoint)
  | opts (value : BindOpts Float64)
  | extra (value : BindExtra)

instance : Debug Float64 (Logged Float64) := ⟨fun f x => match x with
  | .auth value => fmt f value
  | .bindHttp value => fmt f value
  | .bindTls value => fmt f value
  | .opts value => fmt f value
  | .extra value => fmt f value⟩

theorem fmt_logged_opts (f : Formatter Float64) (value : BindOpts Float64) :
    fmt f (Logged.opts value) = fmt f value := rfl

/-- The value with all credentials taken out: two values of one type that differ only in
credentials agree in this. -/
def Logged.withoutCredentials : Logged Float64 → Logged Float64
  | .auth value => .auth value.withoutCredentials
  | .bindHttp value => .bindHttp (value.withoutCredentials HttpEndpoint.withoutCredentials)
  | .bindTls value => .bindTls (value.withoutCredentials TlsEndpoint.withoutCredentials)
  | .opts value => .opts value.withoutCredentials
  | .extra value => .extra value.withoutCredentials

/-- The passwords of the basic authentication in a value. -/
def Logged.passwords : Logged Float64 → Option (List (String × List UInt8))
  | .auth _ => none
  | .bindHttp value => value.opts.passwords
  | .bindTls _ => none
  | .opts value => value.passwords
  | .extra _ => none

/-- The text of a value tells the passwords of the basic authentication and no other
credential. -/
theorem Logged.sameText_iff (f : Formatter Float64) {first second : Logged Float64}
    (differ : first.withoutCredentials = second.withoutCredentials) :
    fmt f first = fmt f second ↔ first.passwords = second.passwords := by
  cases first with
  | auth value =>
      cases second with
      | auth value' =>
          simp only [Logged.withoutCredentials, Logged.auth.injEq] at differ
          simp only [Logged.passwords, iff_true]
          calc
            fmt f value = fmt f value.withoutCredentials := (fmt_auth f value).symm
            _ = fmt f value'.withoutCredentials := by rw [differ]
            _ = fmt f value' := fmt_auth f value'
      | _ => simp [Logged.withoutCredentials] at differ
  | bindHttp value =>
      cases second with
      | bindHttp value' =>
          simp only [Logged.withoutCredentials, Logged.bindHttp.injEq] at differ
          exact (Bind.fmt_eq_iff f _ differ).trans
            (HttpEndpoint.fmt_eq_iff f (congrArg Bind.opts differ))
      | _ => simp [Logged.withoutCredentials] at differ
  | bindTls value =>
      cases second with
      | bindTls value' =>
          simp only [Logged.withoutCredentials, Logged.bindTls.injEq] at differ
          simp only [Logged.passwords, iff_true]
          exact (Bind.fmt_eq_iff f _ differ).2
            (fmt_tlsEndpoint_congr f (congrArg Bind.opts differ))
      | _ => simp [Logged.withoutCredentials] at differ
  | opts value =>
      cases second with
      | opts value' =>
          simp only [Logged.withoutCredentials, Logged.opts.injEq] at differ
          exact BindOpts.fmt_eq_iff f differ
      | _ => simp [Logged.withoutCredentials] at differ
  | extra value =>
      cases second with
      | extra value' =>
          simp only [Logged.withoutCredentials, Logged.extra.injEq] at differ
          simp only [Logged.passwords, iff_true]
          exact fmt_bindExtra_congr f differ
      | _ => simp [Logged.withoutCredentials] at differ

/-- Printable ASCII is kept as it is. -/
def asciiFormatter : Formatter Nat where
  plain c := 32 ≤ c.toNat ∧ c.toNat < 127
  float := Nat.toDigits 10

def endpointOf (password clientSecret : String) : HttpEndpoint Nat :=
  { (default : HttpEndpoint Nat) with
    basicAuth := some ⟨[⟨"ngrok", password, []⟩]⟩
    oauth := some ⟨"google", "client", ⟨clientSecret⟩, [], [], [], []⟩ }

/-- The secret of the client is not seen. -/
theorem Logged.sameText_iff_clientSecrets :
    fmt asciiFormatter (Logged.opts (.http (endpointOf "online1line" "first"))) =
      fmt asciiFormatter (Logged.opts (.http (endpointOf "online1line" "second"))) :=
  (Logged.sameText_iff asciiFormatter rfl).2 rfl

/-- The password of the user is. -/
theorem Logged.not_sameText_passwords :
    ¬ ∀ (f : Formatter Nat) (first second : Logged Nat),
      first.withoutCredentials = second.withoutCredentials →
        fmt f first = fmt f second := by
  intro hides
  have differ : (BindOpts.http (endpointOf "online1line" "secret")).withoutCredentials =
      (BindOpts.http (endpointOf "line1online" "secret")).withoutCredentials := rfl
  have texts := hides asciiFormatter (.opts (.http (endpointOf "online1line" "secret")))
    (.opts (.http (endpointOf "line1online" "secret"))) (congrArg Logged.opts differ)
  rw [fmt_logged_opts, fmt_logged_opts] at texts
  have passwords := (BindOpts.fmt_eq_iff asciiFormatter differ).1 texts
  exact absurd passwords (by decide)

end Logged

end Proto

end NgrokRust
