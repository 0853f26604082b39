import NgrokRust.CopiedStreams
import NgrokRust.ProxyProtoOutgoing
import NgrokRust.ProxyProtoTransparency

/-!
# Both halves of a PROXY stream

The stream of a connection is read and written.  The half that reads leaves alone what was
asked of the connection, and the half that writes leaves alone what was read from it.
-/

namespace NgrokRust

namespace ProxyProto

open LabelledRuns PolledWriter

variable {Header ParseError ε σ κ : Type*} {parser : Parser Header ParseError}

namespace Stream

theorem pollRead_of_idle {reader : PolledReader σ UInt8 ε}
    {stream : Stream Header ParseError σ} (idle : stream.readState = .none) (remaining : Nat) :
    stream.pollRead parser reader remaining = some (stream.pollReadInner reader remaining) := by
  obtain ⟨readState, writeState, inner⟩ := stream
  cases idle
  have decided : (ReadState.none : ReadState Header ParseError).Decided := trivial
  simp only [pollRead, ReadState.pollReadHeaderOnce_of_decided decided]

theorem pollWrite_of_idle {writer : PolledWriter σ UInt8 ε}
    {stream : Stream Header ParseError σ} (idle : stream.writeState = .none)
    (buf : List UInt8) :
    stream.pollWrite writer 1 buf =
      (some (writer.pollWrite stream.inner buf).1,
        { stream with inner := (writer.pollWrite stream.inner buf).2 }) := by
  obtain ⟨readState, writeState, inner⟩ := stream
  cases idle
  rfl

/-- With something beside its connection, a read leaves it alone, and the header that is to
be written. -/
theorem pollReadHeaderOnce_beside {reader : PolledReader σ UInt8 ε}
    {readState next : ReadState Header ParseError} {inner after : (σ × κ) × List UInt8}
    {polled : Poll (Except ε Unit)}
    (returned : ReadState.pollReadHeaderOnce parser (reader.beside κ).recorded readState inner =
      some (polled, next, after)) : after.1.2 = inner.1.2 := by
  refine ReadState.headerLoop_induction (fun _ source => source.1.2 = inner.1.2) ?_ rfl returned
  intro state source kept
  cases state with
  | reading lastErr hdrBuf =>
      obtain ⟨-, _, -, -, ends⟩ | ⟨-, -, waits⟩ | ⟨-, -, -, parses⟩ | ⟨-, parses⟩ :=
        ReadState.headerRound_cases parser (reader.beside κ).recorded lastErr hdrBuf source
      · rw [ends]
        exact kept
      · rw [waits]
        exact kept
      · rw [parses]
        exact kept
      · rw [parses]
        exact kept
  | error => exact kept
  | header => exact kept
  | none => exact kept

theorem pollRead_beside {reader : PolledReader σ UInt8 ε}
    {stream after : Stream Header ParseError ((σ × κ) × List UInt8)} {remaining : Nat}
    {attempt : ReadAttempt UInt8 ε}
    (returned : stream.pollRead parser (reader.beside κ).recorded remaining =
      some (attempt, after)) :
    after.writeState = stream.writeState ∧ after.inner.1.2 = stream.inner.1.2 := by
  obtain ⟨polled, readState, inner, call, waits | handsOut | readsInner⟩ :=
    pollRead_cases returned
  · obtain ⟨-, rfl⟩ := waits
    exact ⟨rfl, pollReadHeaderOnce_beside call⟩
  · obtain ⟨_, _, _, -, -, rfl⟩ := handsOut
    exact ⟨rfl, pollReadHeaderOnce_beside call⟩
  · obtain ⟨-, -, inner⟩ := readsInner
    obtain ⟨-, rfl⟩ := Prod.mk.inj inner
    have kept := pollReadHeaderOnce_beside call
    exact ⟨rfl, kept⟩

/-- A read that meets the end of the stream leaves nothing in the buffer. -/
theorem drained_of_pollRead {reader : PolledReader σ UInt8 ε}
    {stream after : Stream Header ParseError σ} {remaining : Nat}
    {attempt : ReadAttempt UInt8 ε} (room : 0 < remaining)
    (returned : stream.pollRead parser reader remaining = some (attempt, after))
    (ends : attempt.ends = true) :
    after.readState.Decided ∧ after.readState.buffered = [] := by
  have nothing : attempt.filled = [] := Copy.filled_of_ends ends
  unfold pollRead at returned
  cases call : ReadState.pollReadHeaderOnce parser reader stream.readState stream.inner with
  | none => simp [call] at returned
  | some outcome =>
      obtain ⟨polled, readState, inner⟩ := outcome
      rw [call] at returned
      have short {remainder : List UInt8} (left : remainder ≠ []) :
          remainder.take (min remainder.length remaining) ≠ [] := by
        have some := List.length_pos_iff.2 left
        rw [← List.length_pos_iff, List.length_take]
        omega
      cases polled with
      | pending =>
          cases returned
          cases ends
      | ready res =>
          cases res with
          | error err =>
              cases returned
              cases ends
          | ok =>
              cases readState with
              | reading => cases returned
              | error err remainder =>
                  by_cases empty : remainder = []
                  · simp only [empty, if_true] at returned
                    cases returned
                    exact ⟨trivial, rfl⟩
                  · simp only [empty, if_false] at returned
                    cases returned
                    exact absurd nothing (short empty)
              | header hdr remainder =>
                  by_cases empty : remainder = []
                  · simp only [empty, if_true] at returned
                    cases returned
                    exact ⟨trivial, rfl⟩
                  · simp only [empty, if_false] at returned
                    cases returned
                    exact absurd nothing (short empty)
              | none =>
                  cases returned
                  exact ⟨trivial, rfl⟩

end Stream

namespace History

theorem Sound.congr {history history' : History Header ParseError σ}
    (sound : history.Sound parser)
    (readState : history'.stream.readState = history.stream.readState)
    (taken : history'.taken = history.taken) (returned : history'.returned = history.returned)
    (answers : history'.answers = history.answers) : history'.Sound parser := by
  obtain ⟨transparent, undecided, answered⟩ := sound
  unfold Transparent at transparent
  rw [← readState, ← taken, ← returned] at transparent undecided
  rw [← readState, ← answers] at answered
  exact ⟨transparent, undecided, answered⟩

theorem sound_disabled (source : σ) :
    (start (Stream.disabled (source, [])) : History Header ParseError σ).Sound parser where
  transparent := rfl
  undecided := fun undecided => absurd trivial undecided
  answered := by simp [start]

theorem step_beside (parser : Parser Header ParseError) (reader : PolledReader σ UInt8 ε)
    (history : History Header ParseError (σ × κ)) (op : StreamOp) :
    (history.step parser (reader.beside κ) op).stream.writeState = history.stream.writeState ∧
      (history.step parser (reader.beside κ) op).stream.inner.1.2 =
        history.stream.inner.1.2 := by
  cases op with
  | pollProxyHeader =>
      unfold step Stream.pollProxyHeader
      dsimp only
      cases call : ReadState.pollReadHeaderOnce parser (reader.beside κ).recorded
          history.stream.readState history.stream.inner with
      | none => exact ⟨rfl, rfl⟩
      | some outcome =>
          obtain ⟨polled, readState, inner⟩ := outcome
          have kept := Stream.pollReadHeaderOnce_beside call
          cases polled with
          | pending => exact ⟨rfl, kept⟩
          | ready res => cases res <;> exact ⟨rfl, kept⟩
  | pollRead remaining =>
      unfold step
      dsimp only
      split
      · rename_i returned
        exact Stream.pollRead_beside returned
      · exact ⟨rfl, rfl⟩

/-- When `proxy_header` returns, the header is known. -/
theorem known_of_pollProxyHeader {reader : PolledReader σ UInt8 ε}
    {history : History Header ParseError σ} {header : Option Header}
    {after : Stream Header ParseError (σ × List UInt8)}
    (polled : history.stream.pollProxyHeader parser reader.recorded =
      some (.ready (.ok (.ok header)), after)) :
    (history.step parser reader .pollProxyHeader).stream.readState.Decided ∧
      (history.step parser reader .pollProxyHeader).stream.readState.header? = .ok header := by
  have stream : (history.step parser reader .pollProxyHeader).stream = after := by
    simp only [step, polled]
  rw [stream]
  unfold Stream.pollProxyHeader at polled
  cases call : ReadState.pollReadHeaderOnce parser reader.recorded history.stream.readState
      history.stream.inner with
  | none =>
      rw [call] at polled
      cases polled
  | some outcome =>
      obtain ⟨res, readState, inner⟩ := outcome
      rw [call] at polled
      cases res with
      | pending => cases polled
      | ready res =>
          cases res with
          | error err => cases polled
          | ok =>
              obtain ⟨answer, rfl⟩ := Prod.mk.inj (Option.some.inj polled)
              have decided : readState.Decided := ReadState.decided_of_ready call
              exact ⟨decided, by simpa using answer⟩

theorem header?_kept (parser : Parser Header ParseError) (reader : PolledReader σ UInt8 ε)
    (history : History Header ParseError σ) (op : StreamOp) {header : Option Header}
    (known : history.stream.readState.Decided ∧
      history.stream.readState.header? = .ok header) :
    (history.step parser reader op).stream.readState.Decided ∧
      (history.step parser reader op).stream.readState.header? = .ok header := by
  obtain ⟨decided, same⟩ : (history.step parser reader op).stream.readState.Decided ∧
      (history.step parser reader op).stream.readState.header? =
        history.stream.readState.header? := header?_step op known.1
  exact ⟨decided, same.trans known.2⟩

theorem returned_pollProxyHeader {reader : PolledReader σ UInt8 ε}
    (history : History Header ParseError σ) :
    (history.step parser reader .pollProxyHeader).returned = history.returned := by
  unfold step
  dsimp only
  split <;> rfl

end History

namespace WriteState

/-- A writer with something beside it leaves that alone. -/
theorem pollWriteHeaderOnce_beside (writer : PolledWriter σ UInt8 ε) (passes : Nat)
    (state : WriteState) (sink : (σ × κ) × List (WriteRequest UInt8)) :
    (pollWriteHeaderOnce (writer.beside κ).recorded passes state sink).2.2.1.2 =
      sink.1.2 := by
  have round (state : WriteState) (sink : (σ × κ) × List (WriteRequest UInt8)) :
      (headerRound (writer.beside κ).recorded state sink).2.2.1.2 = sink.1.2 := by
    cases state with
    | none => rfl
    | writing buf =>
        unfold headerRound
        dsimp only
        split
        · rfl
        · rfl
        · split <;> rfl
  induction passes generalizing state sink with
  | zero => rfl
  | succ passes ih =>
      have kept := round state sink
      simp only [pollWriteHeaderOnce]
      split
      · rename_i same
        rw [same] at kept
        exact kept
      · rename_i same
        rw [same] at kept
        exact (ih _ _).trans kept

end WriteState

namespace WriteHistory

theorem call_beside (writer : PolledWriter σ UInt8 ε)
    (history : WriteHistory Header ParseError (σ × κ)) (op : WriteCall) :
    (history.call (writer.beside κ) op).stream.readState = history.stream.readState ∧
      (history.call (writer.beside κ) op).stream.inner.1.2 = history.stream.inner.1.2 := by
  cases op with
  | pollWrite passes buf =>
      have kept := WriteState.pollWriteHeaderOnce_beside writer passes history.stream.writeState
        history.stream.inner
      obtain ⟨same, -⟩ | ⟨-, -, same⟩ :=
        history.stream.pollWrite_cases (writer.beside κ).recorded passes buf
      · simp only [call, same, true_and]
        exact kept
      · simp only [call, same, true_and]
        exact kept
  | pollFlush => exact ⟨rfl, rfl⟩
  | pollShutdown => exact ⟨rfl, rfl⟩

theorem Divided.congr {header : List UInt8} {history history' : WriteHistory Header ParseError σ}
    (divided : Divided header history)
    (writeState : history'.stream.writeState = history.stream.writeState)
    (requests : history'.requests = history.requests)
    (returned : history'.returned = history.returned) : Divided header history' := by
  obtain ⟨parts, unreturned⟩ := divided
  rw [← writeState, ← requests, ← returned] at parts
  rw [← writeState, ← returned] at unreturned
  exact ⟨parts, unreturned⟩

end WriteHistory

end ProxyProto

end NgrokRust
