import NgrokRust.ForwardedBytes

/-!
# Runs of forwarding tasks

A task dials once it knows the header of its visitor, and it copies once the upstream is
behind its layers.  In every state it has given each end a part of what the other end has
sent, and the whole of it when it ends well.
-/

namespace NgrokRust

namespace Forward

open Agent LabelledRuns PolledWriter

variable {Header ParseError Name σ τ : Type}

namespace Forwarding

variable {setup : Setup Header ParseError Name σ τ} {parser : ProxyProto.Parser Header ParseError}
  {before task after : Forwarding Header ParseError Name σ τ}

variable (setup)

/-- The upstream was dialed where the URL says, and it is behind the layers that `connect`
puts around it, with the header that was detected. -/
def Made (task : Forwarding Header ParseError Name σ τ)
    (upstream : Upstream Header ParseError Name τ) : Prop :=
  ∃ address backendTls, setup.url.upstream = .ok (address, backendTls) ∧
    task.Detected upstream.header ∧
    setup.outside.layers setup.conn backendTls upstream.header setup.url =
      some (.ok upstream.layers)

/-- What holds of a task at any time. -/
structure Forwards (task : Forwarding Header ParseError Name σ τ) : Prop where
  ends : task.Ends setup.parser
  early : task.phase.isEarly = true → task.upstream = none
  dialing : ∀ address backendTls header, task.phase = .dialing address backendTls header →
    setup.url.upstream = .ok (address, backendTls) ∧ task.Detected header
  made : ∀ upstream ∈ task.upstream, task.Made setup upstream
  handshaking : task.phase = .handshaking →
    ∀ upstream ∈ task.upstream, upstream.layers.tls.isSome = true
  finished : task.phase = .ended (.ok ()) →
    task.upstream.isSome = true ∧ task.toUpstream.isDone = true ∧ task.toVisitor.isDone = true
  untouched : task.phase = .handshaking → task.toUpstream = .new ∧ task.toVisitor = .new
  gateway : ∀ error, task.gatewayError = some error →
    setup.conn.servesGatewayError = true ∧ task.phase = .ended (.error error) ∧
      task.toUpstream = .new ∧ task.toVisitor = .new

variable {setup}

theorem Forwards.moved (ends : task.Ends setup.parser)
    (made : ∀ upstream ∈ task.upstream, task.Made setup upstream) {phase : Phase Header}
    (here : phase = .copying ∨ phase = .panicked ∨ ∃ error, phase = .ended (.error error))
    {gatewayError : Option IoError}
    (gateway : ∀ error, gatewayError = some error → setup.conn.servesGatewayError = true ∧
      phase = .ended (.error error) ∧ task.toUpstream = .new ∧ task.toVisitor = .new) :
    Forwards setup { task with phase := phase, gatewayError := gatewayError } := by
  refine ⟨⟨ends.visitor, ends.upstream, ends.fresh⟩, fun early => ?_, fun _ _ _ dialing => ?_,
    made, fun handshaking => ?_, fun finished => ?_, fun handshaking => ?_, gateway⟩
  · obtain rfl | rfl | ⟨error, rfl⟩ := here <;> cases early
  · obtain rfl | rfl | ⟨error, rfl⟩ := here <;> cases dialing
  · obtain rfl | rfl | ⟨error, rfl⟩ := here <;> cases handshaking
  · obtain rfl | rfl | ⟨error, rfl⟩ := here <;> cases finished
  · obtain rfl | rfl | ⟨error, rfl⟩ := here <;> cases handshaking

theorem Forwards.failDial (ends : task.Ends setup.parser)
    (made : ∀ upstream ∈ task.upstream, task.Made setup upstream)
    (fresh : task.toUpstream = .new ∧ task.toVisitor = .new) (error : IoError) :
    Forwards setup (task.failDial setup error) := by
  refine .moved ends made (.inr (.inr ⟨error, rfl⟩)) ?_
  intro error' told
  split at told
  · rename_i serves
    cases told
    exact ⟨serves, rfl, fresh⟩
  · cases told

theorem Forwards.gatewayError_eq_none (forwards : task.Forwards setup)
    (goesOn : ∀ result, task.phase ≠ .ended result) : task.gatewayError = none := by
  cases told : task.gatewayError with
  | none => rfl
  | some error => exact absurd (forwards.gateway error told).2.1 (goesOn _)

/-- What a poll keeps, a task keeps. -/
theorem Keeps.forwards (keeps : Keeps setup.parser before after)
    (forwards : before.Forwards setup)
    (phase : before.phase = .copying ∨ before.phase = .handshaking ∧
      after.toUpstream = before.toUpstream ∧ after.toVisitor = before.toVisitor) :
    after.Forwards setup := by
  have live : before.phase.isEarly = false ∧ ∀ result, before.phase ≠ .ended result := by
    obtain copying | ⟨handshaking, -⟩ := phase
    · rw [copying]
      exact ⟨rfl, fun _ same => by cases same⟩
    · rw [handshaking]
      exact ⟨rfl, fun _ same => by cases same⟩
  have quiet : after.gatewayError = none :=
    keeps.gatewayError.trans (forwards.gatewayError_eq_none live.2)
  refine ⟨keeps.ends forwards.ends, fun early => ?_, fun address backendTls header dialing => ?_,
    fun upstream' mem => ?_, fun handshaking upstream' mem => ?_, fun finished => ?_,
    fun handshaking => ?_, fun error told => ?_⟩
  · obtain same | ⟨error, same⟩ := keeps.phase
    · rw [same, live.1] at early
      cases early
    · rw [same] at early
      cases early
  · obtain same | ⟨error, same⟩ := keeps.phase
    · have early := live.1
      rw [← same, dialing] at early
      cases early
    · cases dialing.symm.trans same
  · obtain ⟨upstream, mem, header, layers⟩ := keeps.upstream upstream' mem
    obtain ⟨address, backendTls, dialed, detected, made⟩ := forwards.made upstream mem
    rw [← header] at detected made
    rw [← layers] at made
    exact ⟨address, backendTls, dialed, keeps.detected _ detected, made⟩
  · obtain ⟨upstream, mem, -, layers⟩ := keeps.upstream upstream' mem
    rw [layers]
    obtain same | ⟨error, same⟩ := keeps.phase
    · exact forwards.handshaking (same.symm.trans handshaking) upstream mem
    · cases handshaking.symm.trans same
  · obtain same | ⟨error, same⟩ := keeps.phase
    · exact absurd (same.symm.trans finished) (live.2 _)
    · cases finished.symm.trans same
  · obtain same | ⟨error, same⟩ := keeps.phase
    · obtain copying | ⟨-, toUpstream, toVisitor⟩ := phase
      · cases handshaking.symm.trans (same.trans copying)
      · rw [toUpstream, toVisitor]
        exact forwards.untouched (same.symm.trans handshaking)
    · cases handshaking.symm.trans same
  · cases quiet.symm.trans told

/-- `connect` begins once the header is known. -/
theorem forwards_dial (ends : task.Ends setup.parser) (early : task.upstream = none)
    (quiet : task.gatewayError = none) {header : Option Header}
    (detected : task.Detected header) : (task.dial setup header).Forwards setup := by
  have unmade : ∀ upstream ∈ task.upstream, task.Made setup upstream := by
    rw [early]
    rintro _ ⟨⟩
  unfold dial
  cases dialed : setup.url.upstream with
  | error error => exact .failDial ends unmade (ends.fresh early) error
  | ok dial =>
      obtain ⟨address, backendTls⟩ := dial
      refine ⟨⟨ends.visitor, ends.upstream, ends.fresh⟩, fun _ => early, ?_, unmade,
        fun phase => ?_, fun phase => ?_, fun phase => ?_, fun error told => ?_⟩
      · intro address' backendTls' header' phase
        cases phase
        exact ⟨dialed, detected⟩
      · cases phase
      · cases phase
      · cases phase
      · cases quiet.symm.trans told

theorem forwards_detecting (ends : task.Ends setup.parser) (early : task.upstream = none)
    (quiet : task.gatewayError = none) (detecting : task.phase = .detecting) :
    task.Forwards setup := by
  refine ⟨ends, fun _ => early, fun _ _ _ phase => ?_, ?_, fun phase => ?_, fun phase => ?_,
    fun phase => ?_, fun error told => ?_⟩
  · cases detecting.symm.trans phase
  · rw [early]
    rintro _ ⟨⟩
  · cases detecting.symm.trans phase
  · cases detecting.symm.trans phase
  · cases detecting.symm.trans phase
  · cases quiet.symm.trans told

theorem forwards_start (source : σ) : (start setup source).Forwards setup := by
  have ends {stream : ProxyProto.Stream Header ParseError
      ((σ × List (WriteRequest UInt8)) × List UInt8)}
      (sound : ProxyProto.History.Sound setup.parser (.start stream))
      (idle : stream.writeState = .none) (fresh : stream.inner = ((source, []), [])) :
      (⟨.detecting, .start stream, none, .new, .new, none⟩ :
        Forwarding Header ParseError Name σ τ).Ends setup.parser := by
    refine ⟨⟨sound, idle, rfl, ?_, fun stopped => by cases stopped⟩, ?_, fun _ => ⟨rfl, rfl⟩⟩
    · change accepted stream.inner.1.2 = []
      rw [fresh]
      rfl
    · rintro _ ⟨⟩
  unfold start
  split
  · exact forwards_dial (ends (ProxyProto.History.sound_disabled _) rfl rfl) rfl rfl
      ⟨trivial, rfl⟩
  · exact forwards_detecting (ends (ProxyProto.History.sound_incoming _) rfl rfl) rfl rfl rfl

theorem forwards_pollProxyHeader (forwards : task.Forwards setup)
    (detecting : task.phase = .detecting) : (task.pollProxyHeader setup).Forwards setup := by
  have undialed : task.upstream = none := forwards.early (by rw [detecting]; rfl)
  have quiet : task.gatewayError = none := by
    refine forwards.gatewayError_eq_none fun result ended => ?_
    cases detecting.symm.trans ended
  have running : task.toUpstream.isRunning = true := by
    rw [(forwards.ends.fresh undialed).1]
    rfl
  have ends : Ends setup.parser { task with
      visitor := task.visitor.step setup.parser (visitorReader setup) .pollProxyHeader } :=
    ⟨forwards.ends.visitor.pollProxyHeader running _, forwards.ends.upstream,
      forwards.ends.fresh⟩
  have failed (error : IoError) : Forwards setup { task with
      phase := .ended (.error error)
      visitor := task.visitor.step setup.parser (visitorReader setup) .pollProxyHeader } := by
    refine .moved ends ?_ (.inr (.inr ⟨error, rfl⟩)) ?_
    · rw [undialed]
      rintro _ ⟨⟩
    · intro error' told
      cases quiet.symm.trans told
  unfold pollProxyHeader
  dsimp only
  split
  · exact failed _
  · exact failed _
  · rename_i header stream polled
    exact forwards_dial ends undialed quiet (ProxyProto.History.known_of_pollProxyHeader polled)
  · exact forwards_detecting ends undialed quiet detecting

theorem forwards_dialed (forwards : task.Forwards setup) {address : Address}
    {backendTls : Bool} {header : Option Header}
    (dialing : task.phase = .dialing address backendTls header) (answer : Except IoError τ) :
    (task.dialed setup backendTls header answer).Forwards setup := by
  have undialed : task.upstream = none := forwards.early (by rw [dialing]; rfl)
  have fresh := forwards.ends.fresh undialed
  have quiet : task.gatewayError = none := by
    refine forwards.gatewayError_eq_none fun result ended => ?_
    cases dialing.symm.trans ended
  have unmade : ∀ upstream ∈ task.upstream, task.Made setup upstream := by
    rw [undialed]
    rintro _ ⟨⟩
  obtain ⟨dialed, detected⟩ := forwards.dialing _ _ _ dialing
  unfold Forwarding.dialed
  cases answer with
  | error error => exact .failDial forwards.ends unmade fresh error
  | ok conn =>
      dsimp only
      cases made : setup.outside.layers setup.conn backendTls header setup.url with
      | none =>
          refine .moved forwards.ends unmade (.inr (.inl rfl)) fun error told => ?_
          cases quiet.symm.trans told
      | some made' =>
          cases made' with
          | error error => exact .failDial forwards.ends unmade fresh error
          | ok layers =>
              have bytes : header = none → layers.header = [] := by
                rintro rfl
                exact (Option.some.inj (Outside.layers_ok made).1).symm
              refine ⟨⟨forwards.ends.visitor, ?_, fun none => ?_⟩, fun early => ?_,
                fun _ _ _ phase => ?_, ?_, fun phase => ?_, fun phase => ?_, fun _ => fresh,
                fun error told => ?_⟩
              · rintro _ ⟨⟩
                rw [fresh.1, fresh.2]
                exact .start header conn bytes
              · cases none
              · dsimp only at early
                split at early <;> cases early
              · dsimp only at phase
                split at phase <;> cases phase
              · rintro _ ⟨⟩
                exact ⟨address, backendTls, dialed, detected, made⟩
              · rintro _ ⟨⟩
                dsimp only at phase
                split at phase
                · assumption
                · cases phase
              · dsimp only at phase
                split at phase <;> cases phase
              · cases quiet.symm.trans told

theorem forwards_handshake (forwards : task.Forwards setup)
    (handshaking : task.phase = .handshaking) {upstream : Upstream Header ParseError Name τ}
    (found : task.upstream = some upstream) (label : Label τ) :
    (task.handshake setup upstream label).Forwards setup := by
  have tls := forwards.handshaking handshaking upstream found
  have quiet : task.gatewayError = none := by
    refine forwards.gatewayError_eq_none fun result ended => ?_
    cases handshaking.symm.trans ended
  cases label with
  | handshaken answer =>
      cases answer with
      | error error =>
          exact .failDial forwards.ends forwards.made (forwards.untouched handshaking) error
      | ok =>
          refine .moved forwards.ends forwards.made (.inl rfl) fun error told => ?_
          cases quiet.symm.trans told
  | layerCalls call =>
      have keeps : Keeps setup.parser task (task.callUpstream setup upstream call) := by
        refine keeps_callUpstream found call rfl rfl fun plain => ?_
        rw [plain] at tls
        cases tls
      exact keeps.forwards forwards (.inr ⟨handshaking, rfl, rfl⟩)
  | layerReads room =>
      refine (keeps_layerReads found tls room).forwards forwards (.inr ⟨handshaking, ?_⟩)
      unfold layerReads
      split <;> exact ⟨rfl, rfl⟩
  | _ => exact forwards

/-- No poll of a task breaks what holds of it. -/
theorem forwards_step (forwards : task.Forwards setup) (label : Label τ) :
    (task.step setup label).Forwards setup := by
  unfold step
  split
  · rename_i detecting
    split
    · exact forwards_pollProxyHeader forwards detecting
    · exact forwards
  · rename_i dialing
    split
    · exact forwards_dialed forwards dialing _
    · exact forwards
  · rename_i handshaking
    cases found : task.upstream with
    | none => exact forwards
    | some upstream => exact forwards_handshake forwards handshaking found label
  · rename_i copying
    cases found : task.upstream with
    | none => exact forwards
    | some upstream =>
        obtain keeps | ⟨-, sent, given, done⟩ :=
          keeps_copy found forwards.ends.visitor.idle label
        · exact keeps.forwards forwards (.inl copying)
        · simp only [Option.elim_some, done]
          refine ⟨⟨forwards.ends.visitor, forwards.ends.upstream, forwards.ends.fresh⟩,
            fun early => ?_, fun _ _ _ phase => ?_, forwards.made, fun phase => ?_,
            fun _ => ?_, fun phase => ?_, fun error told => ?_⟩
          · cases early
          · cases phase
          · cases phase
          · rw [found]
            exact ⟨rfl, sent, given⟩
          · cases phase
          · have quiet : task.gatewayError = none := by
              refine forwards.gatewayError_eq_none fun result ended => ?_
              cases copying.symm.trans ended
            cases quiet.symm.trans told
  · exact forwards
  · exact forwards

theorem forwards_run (source : σ) (labels : List (Label τ)) :
    (run (step setup) (start setup source) labels).Forwards setup :=
  (reaches_run_anyLabel _ labels).invariant (Forwards setup)
    (fun _ label _ forwards => forwards_step forwards label) (forwards_start source)

/-- What a connection has sent behind its header. -/
def Behind (parser : ProxyProto.Parser Header ParseError) (header : Option Header)
    (sent payload : List UInt8) : Prop :=
  match header with
  | none => payload = sent
  | some hdr => ∃ view consumed, view <+: sent ∧ parser.parse view = .header hdr consumed ∧
      payload = sent.drop consumed

/-- A stream whose header is known returns what was sent behind it. -/
theorem behind_of_detected {header : Option Header} (sound : task.visitor.Sound parser)
    (detected : task.Detected header) :
    Behind parser header task.visitor.taken
      (task.visitor.returned ++ task.visitor.stream.readState.buffered) := by
  have transparent := sound.transparent
  obtain ⟨decided, known⟩ := detected
  unfold ProxyProto.History.Transparent at transparent
  cases state : task.visitor.stream.readState with
  | reading lastErr hdrBuf =>
      rw [state] at decided
      exact decided.elim
  | error err remainder =>
      rw [state] at known
      cases known
  | none =>
      rw [state] at known transparent
      cases known
      exact transparent
  | header hdr remainder =>
      rw [state] at known transparent
      cases known
      cases header with
      | none => exact transparent
      | some hdr => exact transparent

/-- In every state of a task: as long as there is no upstream neither end was given
anything. The connection to the upstream has accepted a part of the header that was detected
and encoded again, and of what was written behind it. Without TLS that is a part of what the
visitor has sent behind its own header, and the visitor has accepted a part of what was read
from the upstream. -/
theorem relays (setup : Setup Header ParseError Name σ τ) (source : σ) (labels : List (Label τ)) :
    let task := run (step setup) (start setup source) labels
    (task.upstream = none → task.visitor.returned = [] ∧ accepted task.asked = []) ∧
      ∀ upstream ∈ task.upstream,
        setup.outside.headerBytes upstream.header = some upstream.layers.header ∧
        Behind setup.parser upstream.header task.visitor.taken
          (task.visitor.returned ++ task.visitor.stream.readState.buffered) ∧
        accepted upstream.history.requests <+:
          upstream.layers.header ++ upstream.history.returned ∧
        (upstream.layers.tls = none →
          upstream.history.returned <+: task.visitor.returned ∧
          accepted task.asked <+: upstream.taken) := by
  intro task
  have forwards : task.Forwards setup := forwards_run source labels
  clear_value task
  have visitor := forwards.ends.visitor
  refine ⟨fun none => ?_, fun upstream mem => ?_⟩
  · obtain ⟨toUpstream, toVisitor⟩ := forwards.ends.fresh none
    rw [← visitor.taken, toUpstream]
    exact ⟨rfl, visitor.given.trans (by rw [toVisitor]; rfl)⟩
  · obtain ⟨address, backendTls, -, detected, made⟩ := forwards.made upstream mem
    have upstreamEnd := forwards.ends.upstream upstream mem
    refine ⟨(Outside.layers_ok made).1, behind_of_detected visitor.sound detected,
      ⟨_, upstreamEnd.divided.divided⟩, fun plain => ?_⟩
    obtain ⟨returned, taken⟩ := upstreamEnd.plain plain
    rw [returned, taken, ← visitor.taken]
    refine ⟨Copy.given_prefix _, ?_⟩
    rw [asked, visitor.given]
    exact Copy.given_prefix _

/-- The upstream speaks TLS exactly with these schemes. -/
theorem upstream_tls_iff {url : Url} {address : Address} {backendTls : Bool}
    (dialed : url.upstream = .ok (address, backendTls)) :
    backendTls = true ↔ url.scheme = "https" ∨ url.scheme = "tls" := by
  unfold Url.upstream at dialed
  split at dialed
  · rename_i tcp
    split at dialed <;> cases dialed
    simp [tcp]
  · split at dialed
    · rename_i http
      cases dialed
      simp [http]
    · split at dialed
      · rename_i tls
        cases dialed
        simp [tls]
      · rename_i plain
        split at dialed
        · split at dialed <;> cases dialed <;> simp [plain]
        · cases dialed

/-- In every state of a task: an upstream is spoken to with TLS exactly if its URL says so
and the visitor does not do that itself, with the name and the verification that were asked
for. And while an upstream cannot be dialed nothing is taken from the visitor's stream: who
answers the visitor instead has the whole request, and is the first to answer. -/
theorem layered (setup : Setup Header ParseError Name σ τ) (source : σ)
    (labels : List (Label τ)) :
    let task := run (step setup) (start setup source) labels
    (∀ upstream ∈ task.upstream,
      (upstream.layers.tls.isSome = true ↔
        (setup.url.scheme = "https" ∨ setup.url.scheme = "tls") ∧
          setup.conn.tunnelTls = false) ∧
      ∀ tls ∈ upstream.layers.tls, setup.outside.Names setup.conn.inner setup.url tls) ∧
    ∀ error, task.gatewayError = some error →
      setup.conn.servesGatewayError = true ∧ task.phase = .ended (.error error) ∧
        task.visitor.returned = [] ∧ accepted task.asked = [] := by
  intro task
  have forwards : task.Forwards setup := forwards_run source labels
  clear_value task
  refine ⟨fun upstream mem => ?_, fun error told => ?_⟩
  · obtain ⟨address, backendTls, dialed, -, made⟩ := forwards.made upstream mem
    obtain ⟨-, tls, names⟩ := Outside.layers_ok made
    rw [upstream_tls_iff dialed] at tls
    exact ⟨tls, names⟩
  · obtain ⟨serves, ended, toUpstream, toVisitor⟩ := forwards.gateway error told
    rw [← forwards.ends.visitor.taken, asked, forwards.ends.visitor.given, toUpstream, toVisitor]
    exact ⟨serves, ended, rfl, rfl⟩

/-- A task that ends well has handed on everything both ways: without TLS, the upstream has
the header and then all that the visitor has sent behind its own, and the visitor has all
that was read from the upstream. Only if there is nothing behind it the header itself may be
incomplete. -/
theorem relays_all {setup : Setup Header ParseError Name σ τ} {source : σ}
    {labels : List (Label τ)}
    (ended : (run (step setup) (start setup source) labels).phase = .ended (.ok ())) :
    ∃ upstream payload,
      (run (step setup) (start setup source) labels).upstream = some upstream ∧
      Behind setup.parser upstream.header
        (run (step setup) (start setup source) labels).visitor.taken payload ∧
      setup.outside.headerBytes upstream.header = some upstream.layers.header ∧
      (upstream.layers.tls = none →
        accepted upstream.history.requests <+: upstream.layers.header ++ payload ∧
        (payload ≠ [] →
          accepted upstream.history.requests = upstream.layers.header ++ payload) ∧
        accepted (run (step setup) (start setup source) labels).asked = upstream.taken) := by
  have forwards : (run (step setup) (start setup source) labels).Forwards setup :=
    forwards_run source labels
  generalize run (step setup) (start setup source) labels = task at ended forwards
  obtain ⟨dialed, sent, given⟩ := forwards.finished ended
  obtain ⟨upstream, mem⟩ := Option.isSome_iff_exists.1 dialed
  have visitor := forwards.ends.visitor
  have upstreamEnd := forwards.ends.upstream upstream mem
  obtain ⟨address, backendTls, -, detected, made⟩ := forwards.made upstream mem
  have stopped : task.toUpstream.isRunning = false := by
    cases copy : task.toUpstream with
    | running => rw [copy] at sent; cases sent
    | draining => rfl
    | done => rfl
  have behind := behind_of_detected visitor.sound detected
  rw [(visitor.drained stopped).2, List.append_nil] at behind
  refine ⟨upstream, task.visitor.returned, mem, behind, (Outside.layers_ok made).1,
    fun plain => ?_⟩
  obtain ⟨returned, taken⟩ := upstreamEnd.plain plain
  have all : upstream.history.returned = task.visitor.returned := by
    rw [returned, ← visitor.taken, Copy.taken_of_isDone sent]
  have divided := upstreamEnd.divided.divided
  rw [all] at divided
  refine ⟨⟨_, divided⟩, fun payload => ?_, ?_⟩
  · cases state : upstream.history.stream.writeState with
    | none =>
        rw [state] at divided
        exact (List.append_nil _).symm.trans divided
    | writing buf =>
        have writing : upstream.history.stream.writeState ≠ .none := by
          rw [state]
          intro same
          cases same
        exact absurd (all.symm.trans (upstreamEnd.divided.unreturned writing)) payload
  · rw [asked, visitor.given, taken, Copy.taken_of_isDone given]

/-- `PROXY UNKNOWN` and `hello`, for an endpoint with TCP that is forwarded to a host with
TCP, which answers `bye`. -/
def helloSetup :
    Setup (List UInt8) Unit Unit (Delivery UInt8) (Delivery UInt8) where
  conn := .endpoint ⟨⟨"id", "1.2.3.4:5", "tcp", .undefined, false⟩, .v1, none, true⟩
  url := ⟨⟨"tcp://host:80", "tcp", some "host", some 80⟩, ""⟩
  parser := .version1
  describe := fun _ => ""
  outside := ⟨fun header => some (header ++ [10]), fun _ => .ok (), ⟨.ok (), true⟩⟩
  visitor := .ofDelivery UInt8 IoError
  upstream := .ofDelivery UInt8 IoError

def helloDelivery : Delivery UInt8 :=
  ⟨[80, 82, 79, 88, 89, 32, 85, 78, 75, 78, 79, 87, 78, 13, 10, 104, 101, 108, 108, 111], []⟩

def helloLabels : List (Label (Delivery UInt8)) :=
  [.pollProxyHeader, .dialed (.ok ⟨[98, 121, 101], []⟩), .readVisitor 32, .writeUpstream 2,
    .readVisitor 32, .shutdownUpstream, .readUpstream 32, .writeVisitor, .readUpstream 32,
    .shutdownVisitor, .finish]

theorem relays_all_hello :
    ∃ upstream payload,
      (run (step helloSetup) (start helloSetup helloDelivery) helloLabels).upstream =
        some upstream ∧
      Behind helloSetup.parser upstream.header
        (run (step helloSetup) (start helloSetup helloDelivery) helloLabels).visitor.taken
          payload ∧
      helloSetup.outside.headerBytes upstream.header = some upstream.layers.header ∧
      (upstream.layers.tls = none →
        accepted upstream.history.requests <+: upstream.layers.header ++ payload ∧
        (payload ≠ [] →
          accepted upstream.history.requests = upstream.layers.header ++ payload) ∧
        accepted (run (step helloSetup) (start helloSetup helloDelivery) helloLabels).asked =
          upstream.taken) :=
  relays_all rfl

end Forwarding

end Forward

end NgrokRust
