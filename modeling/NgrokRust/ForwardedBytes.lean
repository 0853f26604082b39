import NgrokRust.Forwarding

/-!
# Forwarded bytes

Whatever a poll of a forwarding task does, nothing is lost, doubled or reordered between
its two ends: the upstream is given what the visitor stream has returned, and the visitor
what was read from the upstream.
-/

namespace NgrokRust

namespace Forward

open Agent LabelledRuns PolledWriter

variable {Header ParseError Name σ τ : Type}

namespace Forwarding

variable (task : Forwarding Header ParseError Name σ τ)

/-- What was asked of the connection of the visitor. -/
def asked : List (WriteRequest UInt8) := task.visitor.stream.inner.1.2

def Detected (header : Option Header) : Prop :=
  task.visitor.stream.readState.Decided ∧
    task.visitor.stream.readState.header? = .ok header

end Forwarding

/-- Everything that was read from the connection of the upstream. -/
def Upstream.taken (upstream : Upstream Header ParseError Name τ) : List UInt8 :=
  upstream.history.stream.inner.1.2

/-- The end of the visitor: what was returned is on its way to the upstream, and the
visitor was given what came from there. -/
structure VisitorEnd (parser : ProxyProto.Parser Header ParseError)
    (visitor : ProxyProto.History Header ParseError (σ × List (WriteRequest UInt8)))
    (toUpstream toVisitor : Copy UInt8) : Prop where
  sound : visitor.Sound parser
  idle : visitor.stream.writeState = .none
  taken : toUpstream.taken = visitor.returned
  given : accepted visitor.stream.inner.1.2 = toVisitor.given
  drained : toUpstream.isRunning = false →
    visitor.stream.readState.Decided ∧ visitor.stream.readState.buffered = []

/-- The end of the upstream: it was asked for the header first, and without TLS for nothing
but what came from the visitor. -/
structure UpstreamEnd (upstream : Upstream Header ParseError Name τ)
    (toUpstream toVisitor : Copy UInt8) : Prop where
  divided : ProxyProto.WriteHistory.Divided upstream.layers.header upstream.history
  idle : upstream.history.stream.readState = .none
  plain : upstream.layers.tls = none →
    upstream.history.returned = toUpstream.given ∧ upstream.taken = toVisitor.taken

namespace VisitorEnd

variable {parser : ProxyProto.Parser Header ParseError} {conn : Duplex σ UInt8 IoError}
  {visitor : ProxyProto.History Header ParseError (σ × List (WriteRequest UInt8))}
  {toUpstream toVisitor : Copy UInt8}

theorem pollProxyHeader (ends : VisitorEnd parser visitor toUpstream toVisitor)
    (running : toUpstream.isRunning = true) (reader : PolledReader σ UInt8 IoError) :
    VisitorEnd parser
      (visitor.step parser (reader.beside (List (WriteRequest UInt8))) .pollProxyHeader)
      toUpstream toVisitor := by
  have kept := visitor.step_beside parser reader .pollProxyHeader
  refine ⟨ProxyProto.History.sound_step _ ends.sound, kept.1.trans ends.idle, ?_, ?_, ?_⟩
  · rw [ProxyProto.History.returned_pollProxyHeader]
    exact ends.taken
  · rw [kept.2]
    exact ends.given
  · intro drained
    rw [running] at drained
    cases drained

theorem pollRead (ends : VisitorEnd parser visitor toUpstream toVisitor)
    (running : toUpstream.isRunning = true) (reader : PolledReader σ UInt8 IoError)
    {room : Nat} (positive : 0 < room) {attempt : ReadAttempt UInt8 IoError}
    {after : ProxyProto.Stream Header ParseError
      ((σ × List (WriteRequest UInt8)) × List UInt8)}
    (read : visitor.stream.pollRead parser
      (reader.beside (List (WriteRequest UInt8))).recorded room = some (attempt, after)) :
    VisitorEnd parser
      (visitor.step parser (reader.beside (List (WriteRequest UInt8))) (.pollRead room))
      (toUpstream.read attempt) toVisitor := by
  have kept := visitor.step_beside parser reader (.pollRead room)
  have stream : visitor.step parser (reader.beside (List (WriteRequest UInt8)))
      (.pollRead room) =
        { visitor with stream := after, returned := visitor.returned ++ attempt.filled } := by
    simp only [ProxyProto.History.step, read]
  refine ⟨ProxyProto.History.sound_step _ ends.sound, kept.1.trans ends.idle, ?_, ?_, ?_⟩
  · rw [Copy.taken_read running, stream, ends.taken]
  · rw [kept.2]
    exact ends.given
  · intro drained
    rw [Copy.isRunning_read, running, Bool.true_and, Bool.not_eq_false'] at drained
    rw [stream]
    exact ProxyProto.Stream.drained_of_pollRead positive read drained

theorem write (ends : VisitorEnd parser visitor toUpstream toVisitor)
    {inner : (σ × List (WriteRequest UInt8)) × List UInt8} {toVisitor' : Copy UInt8}
    (taken : inner.2 = visitor.stream.inner.2)
    (given : accepted inner.1.2 = toVisitor'.given) :
    VisitorEnd parser { visitor with stream := { visitor.stream with inner := inner } }
      toUpstream toVisitor' where
  sound := ends.sound.congr rfl taken rfl rfl
  idle := ends.idle
  taken := ends.taken
  given := given
  drained := ends.drained

end VisitorEnd

namespace UpstreamEnd

variable {upstream : Upstream Header ParseError Name τ} {toUpstream toVisitor : Copy UInt8}

theorem start (header : Option Header) {layers : Layers Name} (conn : τ)
    (bytes : header = none → layers.header = []) :
    UpstreamEnd (Upstream.start header layers conn : Upstream Header ParseError Name τ) .new
      .new := by
  cases header with
  | none =>
      refine ⟨⟨?_, fun _ => rfl⟩, rfl, fun _ => ⟨rfl, rfl⟩⟩
      change [] = layers.header ++ []
      rw [bytes rfl]
      rfl
  | some header =>
      exact ⟨ProxyProto.WriteHistory.divided_start layers.header (conn, []), rfl,
        fun _ => ⟨rfl, rfl⟩⟩

theorem call (ends : UpstreamEnd upstream toUpstream toVisitor)
    (writer : PolledWriter τ UInt8 IoError) (op : ProxyProto.WriteCall)
    {toUpstream' : Copy UInt8}
    (given : upstream.layers.tls = none →
      (upstream.history.call (writer.beside (List UInt8)) op).returned = toUpstream'.given) :
    UpstreamEnd
      { upstream with history := upstream.history.call (writer.beside (List UInt8)) op }
      toUpstream' toVisitor := by
  have kept := upstream.history.call_beside writer op
  refine ⟨ProxyProto.WriteHistory.divided_call ends.divided op, kept.1.trans ends.idle, ?_⟩
  intro plain
  exact ⟨given plain, kept.2.trans (ends.plain plain).2⟩

/-- A read from the connection, and what it means for the copying. -/
theorem read (ends : UpstreamEnd upstream toUpstream toVisitor)
    {parser : ProxyProto.Parser Header ParseError} (reader : PolledReader τ UInt8 IoError)
    {room : Nat} {attempt : ReadAttempt UInt8 IoError}
    {stream : ProxyProto.Stream Header ParseError
      ((τ × List UInt8) × List (WriteRequest UInt8))}
    (read : upstream.history.stream.pollRead parser
      (reader.recorded.beside (List (WriteRequest UInt8))) room = some (attempt, stream))
    {toVisitor' : Copy UInt8}
    (taken : upstream.layers.tls = none →
      toVisitor'.taken = toVisitor.taken ++ attempt.filled) :
    UpstreamEnd
      { upstream with history := { upstream.history with stream := stream } }
      toUpstream toVisitor' := by
  rw [ProxyProto.Stream.pollRead_of_idle ends.idle] at read
  cases read
  refine ⟨ends.divided.congr rfl rfl rfl, ends.idle, ?_⟩
  intro plain
  refine ⟨(ends.plain plain).1, ?_⟩
  rw [taken plain, ← (ends.plain plain).2]
  rfl

theorem of_tls (ends : UpstreamEnd upstream toUpstream toVisitor)
    (tls : upstream.layers.tls.isSome = true) (toUpstream' toVisitor' : Copy UInt8) :
    UpstreamEnd upstream toUpstream' toVisitor' where
  divided := ends.divided
  idle := ends.idle
  plain := fun plain => by
    rw [plain] at tls
    cases tls

end UpstreamEnd

namespace Forwarding

variable {setup : Setup Header ParseError Name σ τ}
  {before task after : Forwarding Header ParseError Name σ τ}

/-- Both ends are in order, and as long as there is no upstream nothing was copied. -/
structure Ends (parser : ProxyProto.Parser Header ParseError)
    (task : Forwarding Header ParseError Name σ τ) : Prop where
  visitor : VisitorEnd parser task.visitor task.toUpstream task.toVisitor
  upstream : ∀ upstream ∈ task.upstream, UpstreamEnd upstream task.toUpstream task.toVisitor
  fresh : task.upstream = none → task.toUpstream = .new ∧ task.toVisitor = .new

/-- What a poll that copies does: both ends stay in order, the upstream stays behind its
layers, and the task goes on or fails. -/
structure Keeps (parser : ProxyProto.Parser Header ParseError)
    (before after : Forwarding Header ParseError Name σ τ) : Prop where
  ends : before.Ends parser → after.Ends parser
  detected : ∀ header, before.Detected header → after.Detected header
  upstream : ∀ upstream' ∈ after.upstream, ∃ upstream ∈ before.upstream,
    upstream'.header = upstream.header ∧ upstream'.layers = upstream.layers
  dialed : before.upstream.isSome = true → after.upstream.isSome = true
  phase : after.phase = before.phase ∨ ∃ error, after.phase = .ended (.error error)
  gatewayError : after.gatewayError = before.gatewayError

theorem Keeps.refl (parser : ProxyProto.Parser Header ParseError)
    (task : Forwarding Header ParseError Name σ τ) : Keeps parser task task where
  ends := id
  detected := fun _ => id
  upstream := fun upstream mem => ⟨upstream, mem, rfl, rfl⟩
  dialed := id
  phase := .inl rfl
  gatewayError := rfl

variable {parser : ProxyProto.Parser Header ParseError}

theorem Keeps.orFail {α : Type} (keeps : Keeps parser before after)
    (polled : Option (Poll (Except IoError α))) : Keeps parser before (after.orFail polled) := by
  unfold Forwarding.orFail
  split
  · exact ⟨fun ends => ⟨(keeps.ends ends).visitor, (keeps.ends ends).upstream,
      (keeps.ends ends).fresh⟩, keeps.detected, keeps.upstream, keeps.dialed, .inr ⟨_, rfl⟩,
      keeps.gatewayError⟩
  · exact keeps

/-- A call that writes to the visitor. -/
theorem keeps_withVisitor (task : Forwarding Header ParseError Name σ τ)
    (inner : (σ × List (WriteRequest UInt8)) × List UInt8) (toVisitor : Copy UInt8)
    (taken : inner.2 = task.visitor.stream.inner.2)
    (copied : toVisitor.taken = task.toVisitor.taken)
    (fresh : task.toVisitor = .new → toVisitor = .new)
    (given : accepted task.visitor.stream.inner.1.2 = task.toVisitor.given →
      accepted inner.1.2 = toVisitor.given) :
    Keeps parser task
      { task.withVisitor { task.visitor.stream with inner := inner } with
        toVisitor := toVisitor } where
  ends := fun ends => by
    refine ⟨ends.visitor.write taken (given ends.visitor.given), ?_, ?_⟩
    · intro upstream mem
      have before := ends.upstream upstream mem
      refine ⟨before.divided, before.idle, fun plain => ?_⟩
      exact ⟨(before.plain plain).1, (before.plain plain).2.trans copied.symm⟩
    · intro none
      exact ⟨(ends.fresh none).1, fresh (ends.fresh none).2⟩
  detected := fun _ => id
  upstream := fun upstream mem => ⟨upstream, mem, rfl, rfl⟩
  dialed := id
  phase := .inl rfl
  gatewayError := rfl

theorem keeps_readVisitor (dialed : task.upstream.isSome = true) (room : Nat) :
    Keeps setup.parser task (task.readVisitor setup room) := by
  unfold readVisitor
  split
  · rename_i allowed
    cases read : task.visitor.stream.pollRead setup.parser (visitorReader setup).recorded
        room with
    | none => exact .refl _ _
    | some outcome =>
        obtain ⟨attempt, after⟩ := outcome
        dsimp only
        apply Keeps.orFail
        refine ⟨?_, ?_, ?_, id, .inl rfl, rfl⟩
        · intro ends
          refine ⟨ends.visitor.pollRead allowed.2 _ allowed.1 read, ?_, ?_⟩
          · intro upstream mem
            have before := ends.upstream upstream mem
            refine ⟨before.divided, before.idle, fun plain => ?_⟩
            rw [Copy.given_read]
            exact before.plain plain
          · intro none
            rw [none] at dialed
            cases dialed
        · intro header detected
          exact task.visitor.header?_kept _ _ _ detected
        · exact fun upstream mem => ⟨upstream, mem, rfl, rfl⟩
  · exact .refl _ _

theorem keeps_writeVisitor
    (idle : task.visitor.stream.writeState = .none) :
    Keeps setup.parser task (task.writeVisitor setup) := by
  unfold writeVisitor
  split
  · rename_i waiting
    rw [ProxyProto.Stream.pollWrite_of_idle idle]
    apply Keeps.orFail
    refine keeps_withVisitor task _ _ rfl (Copy.taken_wrote _ _) ?_ ?_
    · intro fresh
      rw [fresh] at waiting
      exact absurd rfl waiting
    · intro given
      rw [Copy.given_wrote, ← given, ← take_written]
      change accepted (task.visitor.stream.inner.1.2 ++ [.write (acceptedBy _ _)]) = _
      rw [accepted_append, accepted_write]
      rfl
  · exact .refl _ _

theorem keeps_flushVisitor (task : Forwarding Header ParseError Name σ τ) :
    Keeps setup.parser task (task.flushVisitor setup) := by
  apply Keeps.orFail
  refine keeps_withVisitor task ((visitorWriter setup).pollFlush task.visitor.stream.inner).2
    task.toVisitor rfl rfl id ?_
  intro given
  rw [← given]
  exact (accepted_append _ _).trans (List.append_nil _)

theorem keeps_shutdownVisitor (task : Forwarding Header ParseError Name σ τ) :
    Keeps setup.parser task (task.shutdownVisitor setup) := by
  unfold shutdownVisitor
  split
  · rename_i drained
    apply Keeps.orFail
    refine keeps_withVisitor task _ _ rfl (Copy.taken_shutdown _ _) ?_ ?_
    · intro fresh
      rw [fresh] at drained
      cases drained
    · intro given
      rw [Copy.given_shutdown, ← given]
      exact (accepted_append _ _).trans (List.append_nil _)
  · exact .refl _ _

/-- A call on the connection to the upstream, and what it means for the copying. -/
theorem keeps_callUpstream {upstream : Upstream Header ParseError Name τ}
    (found : task.upstream = some upstream) (op : ProxyProto.WriteCall) {toUpstream : Copy UInt8}
    (taken : toUpstream.taken = task.toUpstream.taken)
    (running : toUpstream.isRunning = task.toUpstream.isRunning)
    (given : upstream.layers.tls = none → upstream.history.returned = task.toUpstream.given →
      (upstream.history.call (upstreamWriter setup) op).returned = toUpstream.given) :
    Keeps parser task
      { task.callUpstream setup upstream op with toUpstream := toUpstream } where
  ends := fun ends => by
    refine ⟨⟨ends.visitor.sound, ends.visitor.idle, taken.trans ends.visitor.taken,
      ends.visitor.given, fun stopped => ends.visitor.drained (running.symm.trans stopped)⟩,
      ?_, fun none => by cases none⟩
    rintro _ ⟨⟩
    have before := ends.upstream upstream found
    exact before.call _ op fun plain => given plain (before.plain plain).1
  detected := fun _ => id
  upstream := by
    rintro _ ⟨⟩
    exact ⟨upstream, found, rfl, rfl⟩
  dialed := fun _ => rfl
  phase := .inl rfl
  gatewayError := rfl

theorem keeps_writeUpstream {upstream : Upstream Header ParseError Name τ}
    (found : task.upstream = some upstream) (passes : Nat) :
    Keeps parser task (task.writeUpstream setup upstream passes) := by
  unfold writeUpstream
  split
  · apply Keeps.orFail
    refine keeps_callUpstream found _ (Copy.taken_wrote _ _) (Copy.isRunning_wrote _ _) ?_
    intro plain given
    rw [Copy.given_wrote, ← given, ← take_written]
    rfl
  · exact .refl _ _

theorem keeps_flushUpstream {upstream : Upstream Header ParseError Name τ}
    (found : task.upstream = some upstream) :
    Keeps parser task (task.flushUpstream setup upstream) := by
  apply Keeps.orFail
  exact keeps_callUpstream found .pollFlush rfl rfl fun _ given => given

theorem keeps_shutdownUpstream {upstream : Upstream Header ParseError Name τ}
    (found : task.upstream = some upstream) :
    Keeps parser task (task.shutdownUpstream setup upstream) := by
  unfold shutdownUpstream
  split
  · apply Keeps.orFail
    refine keeps_callUpstream found .pollShutdown (Copy.taken_shutdown _ _)
      (Copy.isRunning_shutdown _ _) ?_
    intro plain given
    rw [Copy.given_shutdown, ← given]
    rfl
  · exact .refl _ _

/-- A read from the connection to the upstream, and what it means for the copying. -/
theorem keeps_withUpstream {upstream : Upstream Header ParseError Name τ}
    (found : task.upstream = some upstream) {room : Nat} {attempt : ReadAttempt UInt8 IoError}
    {stream : ProxyProto.Stream Header ParseError
      ((τ × List UInt8) × List (WriteRequest UInt8))}
    (read : upstream.history.stream.pollRead parser (upstreamReader setup) room =
      some (attempt, stream))
    {toVisitor : Copy UInt8} (given : toVisitor.given = task.toVisitor.given)
    (taken : upstream.layers.tls = none →
      toVisitor.taken = task.toVisitor.taken ++ attempt.filled) :
    Keeps parser task { task.withUpstream upstream stream with toVisitor := toVisitor } where
  ends := fun ends => by
    refine ⟨⟨ends.visitor.sound, ends.visitor.idle, ends.visitor.taken,
      ends.visitor.given.trans given.symm, ends.visitor.drained⟩, ?_, fun none => by cases none⟩
    rintro _ ⟨⟩
    exact (ends.upstream upstream found).read _ read taken
  detected := fun _ => id
  upstream := by
    rintro _ ⟨⟩
    exact ⟨upstream, found, rfl, rfl⟩
  dialed := fun _ => rfl
  phase := .inl rfl
  gatewayError := rfl

theorem keeps_readUpstream {upstream : Upstream Header ParseError Name τ}
    (found : task.upstream = some upstream) (room : Nat) :
    Keeps setup.parser task (task.readUpstream setup upstream room) := by
  unfold readUpstream
  split
  · rename_i allowed
    cases read : upstream.history.stream.pollRead setup.parser (upstreamReader setup) room with
    | none => exact .refl _ _
    | some outcome =>
        apply Keeps.orFail
        exact keeps_withUpstream found read (Copy.given_read _ _)
          fun _ => Copy.taken_read allowed.2 _
  · exact .refl _ _

theorem keeps_layerReads {upstream : Upstream Header ParseError Name τ}
    (found : task.upstream = some upstream) (tls : upstream.layers.tls.isSome = true)
    (room : Nat) : Keeps setup.parser task (task.layerReads setup upstream room) := by
  unfold layerReads
  cases read : upstream.history.stream.pollRead setup.parser (upstreamReader setup) room with
  | none => exact .refl _ _
  | some outcome =>
      refine keeps_withUpstream found read rfl fun plain => ?_
      rw [plain] at tls
      cases tls

/-- The copying meets the TLS session. -/
theorem keeps_layered {upstream : Upstream Header ParseError Name τ}
    (found : task.upstream = some upstream) (tls : upstream.layers.tls.isSome = true)
    {toUpstream toVisitor : Copy UInt8}
    (taken : toUpstream.taken = task.toUpstream.taken)
    (running : toUpstream.isRunning = task.toUpstream.isRunning)
    (given : toVisitor.given = task.toVisitor.given) :
    Keeps parser task { task with toUpstream := toUpstream, toVisitor := toVisitor } where
  ends := fun ends => by
    refine ⟨⟨ends.visitor.sound, ends.visitor.idle, taken.trans ends.visitor.taken,
      ends.visitor.given.trans given.symm,
      fun stopped => ends.visitor.drained (running.symm.trans stopped)⟩, ?_, ?_⟩
    · intro upstream' mem
      cases found.symm.trans mem
      exact (ends.upstream upstream found).of_tls tls _ _
    · intro none
      cases found.symm.trans none
  detected := fun _ => id
  upstream := fun upstream mem => ⟨upstream, mem, rfl, rfl⟩
  dialed := id
  phase := .inl rfl
  gatewayError := rfl

theorem keeps_layerTakes {upstream : Upstream Header ParseError Name τ}
    (found : task.upstream = some upstream) (tls : upstream.layers.tls.isSome = true)
    (answer : Except IoError Nat) : Keeps parser task (task.layerTakes answer) := by
  unfold layerTakes
  split
  · apply Keeps.orFail
    exact keeps_layered found tls (Copy.taken_wrote _ _) (Copy.isRunning_wrote _ _) rfl
  · exact .refl _ _

theorem keeps_layerYields {upstream : Upstream Header ParseError Name τ}
    (found : task.upstream = some upstream) (tls : upstream.layers.tls.isSome = true)
    (attempt : ReadAttempt UInt8 IoError) : Keeps parser task (task.layerYields attempt) := by
  unfold layerYields
  split
  · apply Keeps.orFail
    exact keeps_layered found tls rfl rfl (Copy.given_read _ _)
  · exact .refl _ _

theorem keeps_layerCloses {upstream : Upstream Header ParseError Name τ}
    (found : task.upstream = some upstream) (tls : upstream.layers.tls.isSome = true)
    (answer : Except IoError Unit) : Keeps parser task (task.layerCloses answer) := by
  unfold layerCloses
  split
  · apply Keeps.orFail
    exact keeps_layered found tls (Copy.taken_shutdown _ _) (Copy.isRunning_shutdown _ _) rfl
  · exact .refl _ _

/-- Every poll of the copying keeps both ends in order, except that the last one ends the
task when both directions are done. -/
theorem keeps_copy {upstream : Upstream Header ParseError Name τ}
    (found : task.upstream = some upstream)
    (idle : task.visitor.stream.writeState = .none) (label : Label τ) :
    Keeps setup.parser task (task.copy setup upstream label) ∨
      label = .finish ∧ task.toUpstream.isDone = true ∧ task.toVisitor.isDone = true ∧
        task.copy setup upstream label = { task with phase := .ended (.ok ()) } := by
  have dialed : task.upstream.isSome = true := by
    rw [found]
    rfl
  have guarded (tls : Bool) {next : Forwarding Header ParseError Name σ τ}
      (keeps : tls = true → Keeps setup.parser task next) :
      Keeps setup.parser task (if tls then next else task) := by
    split
    · exact keeps ‹_›
    · exact .refl _ _
  cases label with
  | finish =>
      by_cases done : task.toUpstream.isDone && task.toVisitor.isDone
      · obtain ⟨sent, given⟩ := Bool.and_eq_true_iff.1 done
        exact .inr ⟨rfl, sent, given, by simp only [copy, done, if_true]⟩
      · left
        simp only [copy, done]
        exact .refl _ _
  | readVisitor room => exact .inl (keeps_readVisitor dialed room)
  | writeVisitor => exact .inl (keeps_writeVisitor idle)
  | flushVisitor => exact .inl (keeps_flushVisitor task)
  | shutdownVisitor => exact .inl (keeps_shutdownVisitor task)
  | writeUpstream passes => exact .inl (guarded _ fun _ => keeps_writeUpstream found passes)
  | flushUpstream => exact .inl (guarded _ fun _ => keeps_flushUpstream found)
  | shutdownUpstream => exact .inl (guarded _ fun _ => keeps_shutdownUpstream found)
  | readUpstream room => exact .inl (guarded _ fun _ => keeps_readUpstream found room)
  | layerCalls call =>
      refine .inl (guarded _ fun tls => ?_)
      refine keeps_callUpstream found call rfl rfl fun plain => ?_
      rw [plain] at tls
      cases tls
  | layerReads room => exact .inl (guarded _ fun tls => keeps_layerReads found tls room)
  | layerTakes answer => exact .inl (guarded _ fun tls => keeps_layerTakes found tls answer)
  | layerYields attempt => exact .inl (guarded _ fun tls => keeps_layerYields found tls attempt)
  | layerCloses answer => exact .inl (guarded _ fun tls => keeps_layerCloses found tls answer)
  | pollProxyHeader => exact .inl (.refl _ _)
  | dialed answer => exact .inl (.refl _ _)
  | handshaken answer => exact .inl (.refl _ _)

end Forwarding

end Forward

end NgrokRust
