import NgrokRust.PolledWriter
import NgrokRust.ProxyProtoStream

/-!
# The outgoing PROXY header

An outgoing stream holds the encoded header.  `poll_write` writes what is left of it
before it goes on to the payload, in a loop that an inner writer can interrupt after any
byte; `poll_flush` and `poll_shutdown` go to the inner writer at once.
-/

namespace NgrokRust

namespace ProxyProto

open LabelledRuns PolledWriter

variable {Header ParseError ε σ : Type*}

namespace WriteState

def pending : WriteState → List UInt8
  | .writing buf => buf
  | .none => []

/-- One pass through the loop of `poll_write_header_once`, where `none` stands for
`continue`. -/
def headerRound (writer : PolledWriter σ UInt8 ε) (state : WriteState) (sink : σ) :
    Option (Poll (Except ε Unit)) × WriteState × σ :=
  match state with
  | .none => (some (.ready (.ok ())), .none, sink)
  | .writing buf =>
      let write := writer.pollWrite sink buf
      match write.1 with
      | .pending => (some .pending, .writing buf, write.2)
      | .ready (.error err) => (some (.ready (.error err)), .writing buf, write.2)
      | .ready (.ok written) =>
          if buf.drop written = [] then (some (.ready (.ok ())), .none, write.2)
          else (.none, .writing (buf.drop written), write.2)

/-- The loop up to its end or up to some number of passes. Without an answer it is still
running: a writer that accepts nothing of the header keeps it going. -/
def pollWriteHeaderOnce (writer : PolledWriter σ UInt8 ε) :
    Nat → WriteState → σ → Option (Poll (Except ε Unit)) × WriteState × σ
  | 0, state, sink => (.none, state, sink)
  | passes + 1, state, sink =>
      match headerRound writer state sink with
      | (some polled, state, sink) => (some polled, state, sink)
      | (.none, state, sink) => pollWriteHeaderOnce writer passes state sink

variable {writer : PolledWriter σ UInt8 ε} {state next : WriteState}
  {sink after : σ × List (WriteRequest UInt8)}

/-- The header is divided as before into what was accepted and what is pending, by requests
that are writes. -/
structure Advances (state : WriteState) (sink : σ × List (WriteRequest UInt8))
    (next : WriteState) (after : σ × List (WriteRequest UInt8)) : Prop where
  divided : accepted after.2 ++ next.pending = accepted sink.2 ++ state.pending
  writes : ∃ more, after.2 = sink.2 ++ more ∧ .shutdown ∉ more

theorem Advances.refl (state : WriteState) (sink : σ × List (WriteRequest UInt8)) :
    Advances state sink state sink where
  divided := rfl
  writes := ⟨[], by simp⟩

theorem Advances.trans {last : WriteState} {final : σ × List (WriteRequest UInt8)}
    (first : Advances state sink next after) (second : Advances next after last final) :
    Advances state sink last final where
  divided := second.divided.trans first.divided
  writes := by
    obtain ⟨early, same, calm⟩ := first.writes
    obtain ⟨late, same', calm'⟩ := second.writes
    refine ⟨early ++ late, by rw [same', same, List.append_assoc], ?_⟩
    simp only [List.mem_append, not_or]
    exact ⟨calm, calm'⟩

theorem advances_pollWrite (sink : σ × List (WriteRequest UInt8)) {buf : List UInt8}
    (left : acceptedBy (writer.recorded.pollWrite sink buf).1 buf ++ next.pending = buf) :
    Advances (.writing buf) sink next (writer.recorded.pollWrite sink buf).2 where
  divided := by
    rw [recorded_pollWrite_log, accepted_append, accepted_write, List.append_assoc, left]
    rfl
  writes := ⟨_, recorded_pollWrite_log writer sink buf, by simp⟩

theorem headerRound_advances (writer : PolledWriter σ UInt8 ε) (state : WriteState)
    (sink : σ × List (WriteRequest UInt8)) :
    let round := headerRound writer.recorded state sink
    Advances state sink round.2.1 round.2.2 ∧
      (round.1 = some (.ready (.ok ())) → round.2.1 = .none) := by
  intro round
  cases state with
  | none => exact ⟨.refl _ _, fun _ => rfl⟩
  | writing buf =>
      cases answered : (writer.recorded.pollWrite sink buf).1 with
      | pending =>
          have same : round = (some .pending, .writing buf, (writer.recorded.pollWrite sink buf).2) := by
            simp only [round, headerRound, answered]
          rw [same]
          refine ⟨advances_pollWrite sink ?_, fun ready => by cases ready⟩
          rw [answered]
          rfl
      | ready res =>
          cases res with
          | error err =>
              have same : round = (some (.ready (.error err)), .writing buf,
                  (writer.recorded.pollWrite sink buf).2) := by
                simp only [round, headerRound, answered]
              rw [same]
              refine ⟨advances_pollWrite sink ?_, fun ready => by cases ready⟩
              rw [answered]
              rfl
          | ok written =>
              have divided : buf.take written ++ buf.drop written = buf :=
                List.take_append_drop written buf
              by_cases whole : buf.drop written = []
              · have same : round = (some (.ready (.ok ())), .none,
                    (writer.recorded.pollWrite sink buf).2) := by
                  simp only [round, headerRound, answered, if_pos whole]
                rw [same]
                refine ⟨advances_pollWrite sink ?_, fun _ => rfl⟩
                rw [answered]
                rw [whole] at divided
                exact divided
              · have same : round = (.none, .writing (buf.drop written),
                    (writer.recorded.pollWrite sink buf).2) := by
                  simp only [round, headerRound, answered, if_neg whole]
                rw [same]
                refine ⟨advances_pollWrite sink ?_, fun ready => by cases ready⟩
                rw [answered]
                exact divided

theorem pollWriteHeaderOnce_advances (writer : PolledWriter σ UInt8 ε) (passes : Nat)
    (state : WriteState) (sink : σ × List (WriteRequest UInt8)) :
    let call := pollWriteHeaderOnce writer.recorded passes state sink
    Advances state sink call.2.1 call.2.2 ∧
      (call.1 = some (.ready (.ok ())) → call.2.1 = .none) := by
  induction passes generalizing state sink with
  | zero => exact ⟨.refl _ _, fun ready => by cases ready⟩
  | succ passes ih =>
      obtain ⟨advances, done⟩ := headerRound_advances writer state sink
      simp only [pollWriteHeaderOnce]
      split
      · rename_i polled next after round
        rw [round] at advances done
        exact ⟨advances, done⟩
      · rename_i next after round
        rw [round] at advances
        obtain ⟨later, done⟩ := ih next after
        exact ⟨advances.trans later, done⟩

theorem pollWriteHeaderOnce_none (writer : PolledWriter σ UInt8 ε) (passes : Nat) (sink : σ) :
    (pollWriteHeaderOnce writer passes .none sink).2 = (.none, sink) := by
  cases passes <;> rfl

end WriteState

namespace Stream

/-- `Stream::poll_write`; without an answer it has not returned after so many passes. -/
def pollWrite (writer : PolledWriter σ UInt8 ε) (passes : Nat)
    (stream : Stream Header ParseError σ) (buf : List UInt8) :
    Option (Poll (Except ε Nat)) × Stream Header ParseError σ :=
  let call := WriteState.pollWriteHeaderOnce writer passes stream.writeState stream.inner
  let stream := { stream with writeState := call.2.1, inner := call.2.2 }
  match call.1 with
  | none => (none, stream)
  | some .pending => (some .pending, stream)
  | some (.ready (.error err)) => (some (.ready (.error err)), stream)
  | some (.ready (.ok ())) =>
      let write := writer.pollWrite stream.inner buf
      (some write.1, { stream with inner := write.2 })

/-- A write comes to an end with the header, or the header is written and the write goes on
to the inner writer. -/
theorem pollWrite_cases (writer : PolledWriter σ UInt8 ε) (passes : Nat)
    (stream : Stream Header ParseError σ) (buf : List UInt8) :
    let call := WriteState.pollWriteHeaderOnce writer passes stream.writeState stream.inner
    let write := stream.pollWrite writer passes buf
    (write.2 = { stream with writeState := call.2.1, inner := call.2.2 } ∧
        ∀ written, write.1 ≠ some (.ready (.ok written))) ∨
      (call.1 = some (.ready (.ok ())) ∧ write.1 = some (writer.pollWrite call.2.2 buf).1 ∧
        write.2 = { stream with
          writeState := call.2.1, inner := (writer.pollWrite call.2.2 buf).2 }) := by
  intro call write
  cases answered : call.1 with
  | none => simp [write, pollWrite, call, answered]
  | some polled =>
      cases polled with
      | pending => simp [write, pollWrite, call, answered]
      | ready res =>
          cases res with
          | error err => simp [write, pollWrite, call, answered]
          | ok => simp [write, pollWrite, call, answered]

def pollFlush (writer : PolledWriter σ UInt8 ε) (stream : Stream Header ParseError σ) :
    Poll (Except ε Unit) × Stream Header ParseError σ :=
  let flush := writer.pollFlush stream.inner
  (flush.1, { stream with inner := flush.2 })

def pollShutdown (writer : PolledWriter σ UInt8 ε) (stream : Stream Header ParseError σ) :
    Poll (Except ε Unit) × Stream Header ParseError σ :=
  let shutdown := writer.pollShutdown stream.inner
  (shutdown.1, { stream with inner := shutdown.2 })

end Stream

/-- A call of the side that writes. -/
inductive WriteCall where
  | pollWrite (passes : Nat) (buf : List UInt8)
  | pollFlush
  | pollShutdown
deriving DecidableEq

/-- A stream over a recorded writer, with the payload its calls of `poll_write` answered
for. -/
structure WriteHistory (Header ParseError σ : Type*) where
  stream : Stream Header ParseError (σ × List (WriteRequest UInt8))
  returned : List UInt8

namespace WriteHistory

/-- Everything the inner writer was asked for. -/
def requests (history : WriteHistory Header ParseError σ) : List (WriteRequest UInt8) :=
  history.stream.inner.2

def start (header : List UInt8) (sink : σ) : WriteHistory Header ParseError σ where
  stream := { readState := .none, writeState := .writing header, inner := (sink, []) }
  returned := []

theorem start_outgoing {EncodeError : Type*} (header : List UInt8) (sink : σ) :
    Stream.outgoing (sink, []) (.ok header : Except EncodeError (List UInt8)) =
      .ok (start header sink : WriteHistory Header ParseError σ).stream := rfl

/-- A call on the stream. A call of `poll_write` that has not returned is seen in the
middle of its loop. -/
def call (writer : PolledWriter σ UInt8 ε) (history : WriteHistory Header ParseError σ) :
    WriteCall → WriteHistory Header ParseError σ
  | .pollWrite passes buf =>
      let write := history.stream.pollWrite writer.recorded passes buf
      { stream := write.2
        returned := history.returned ++ (write.1.elim [] fun answer => acceptedBy answer buf) }
  | .pollFlush => { history with stream := (history.stream.pollFlush writer.recorded).2 }
  | .pollShutdown => { history with stream := (history.stream.pollShutdown writer.recorded).2 }

variable {writer : PolledWriter σ UInt8 ε} {header : List UInt8}
  {history : WriteHistory Header ParseError σ}

@[simp]
theorem requests_pollFlush : (history.call writer .pollFlush).requests =
    history.requests ++ [.flush] := rfl

@[simp]
theorem requests_pollShutdown : (history.call writer .pollShutdown).requests =
    history.requests ++ [.shutdown] := rfl

/-- What a call of `poll_write` does: it writes some of the header, or what was left of it
and then some of its payload. -/
theorem call_pollWrite_cases (writer : PolledWriter σ UInt8 ε)
    (history : WriteHistory Header ParseError σ) (passes : Nat) (buf : List UInt8) :
    let after := history.call writer (.pollWrite passes buf)
    ∃ state sink, WriteState.Advances history.stream.writeState history.stream.inner state sink ∧
      after.stream.writeState = state ∧ (history.stream.writeState = .none → state = .none) ∧
      ((after.requests = sink.2 ∧ after.returned = history.returned ∧
          ∀ written, (history.stream.pollWrite writer.recorded passes buf).1 ≠
            some (.ready (.ok written))) ∨
        ∃ payload, state = .none ∧ after.requests = sink.2 ++ [.write payload] ∧
          after.returned = history.returned ++ payload) := by
  intro after
  obtain ⟨advances, done⟩ := WriteState.pollWriteHeaderOnce_advances writer passes
    history.stream.writeState history.stream.inner
  refine ⟨_, _, advances, ?_⟩
  have stays : history.stream.writeState = .none → (WriteState.pollWriteHeaderOnce writer.recorded
      passes history.stream.writeState history.stream.inner).2.1 = .none := by
    intro written
    rw [written, WriteState.pollWriteHeaderOnce_none]
  obtain ⟨same, unanswered⟩ | ⟨ready, answered, same⟩ :=
    history.stream.pollWrite_cases writer.recorded passes buf
  · have nothing : ((history.stream.pollWrite writer.recorded passes buf).1.elim []
        fun answer => acceptedBy answer buf) = [] := by
      cases answer : (history.stream.pollWrite writer.recorded passes buf).1 with
      | none => rfl
      | some polled =>
          cases polled with
          | pending => rfl
          | ready res =>
              cases res with
              | error err => rfl
              | ok written => exact absurd answer (unanswered written)
    refine ⟨?_, stays, .inl ⟨?_, ?_, unanswered⟩⟩
    · simp only [after, call, same]
    · simp only [after, call, requests, same]
    · simp only [after, call, nothing, List.append_nil]
  · refine ⟨?_, stays, .inr ⟨acceptedBy (writer.recorded.pollWrite
      (WriteState.pollWriteHeaderOnce writer.recorded passes history.stream.writeState
        history.stream.inner).2.2 buf).1 buf, done ready, ?_, ?_⟩⟩
    · simp only [after, call, same]
    · simp only [after, call, requests, same]
      rw [recorded_pollWrite_log]
    · simp only [after, call, answered, Option.elim_some]

/-- The bytes that the inner writer accepted and the pending part of the header are the
header and the payload, and no payload was answered for before the header was written. -/
structure Divided (header : List UInt8) (history : WriteHistory Header ParseError σ) : Prop where
  divided : accepted history.requests ++ history.stream.writeState.pending =
    header ++ history.returned
  unreturned : history.stream.writeState ≠ .none → history.returned = []

theorem divided_start (header : List UInt8) (sink : σ) :
    Divided header (start header sink : WriteHistory Header ParseError σ) where
  divided := (List.append_nil header).symm
  unreturned := fun _ => rfl

theorem divided_call (divided : Divided header history) (call : WriteCall) :
    Divided header (history.call writer call) := by
  cases call with
  | pollWrite passes buf =>
      obtain ⟨state, sink, advances, same, stays, ⟨unchanged, still, -⟩ |
        ⟨payload, written, more, returned⟩⟩ := history.call_pollWrite_cases writer passes buf
      · refine ⟨?_, fun writing => ?_⟩
        · rw [unchanged, same, still, advances.divided]
          exact divided.divided
        · rw [still]
          exact divided.unreturned fun none => writing (same.trans (stays none))
      · have whole : accepted sink.2 = header ++ history.returned := by
          have all := advances.divided.trans divided.divided
          rwa [written, WriteState.pending, List.append_nil] at all
        refine ⟨?_, fun writing => absurd (same.trans written) writing⟩
        rw [more, same, written, returned, accepted_append, whole, accepted_write]
        simp [WriteState.pending]
  | pollFlush =>
      refine ⟨?_, divided.unreturned⟩
      rw [requests_pollFlush, accepted_append, accepted_flush, List.append_nil]
      exact divided.divided
  | pollShutdown =>
      refine ⟨?_, divided.unreturned⟩
      rw [requests_pollShutdown, accepted_append, accepted_shutdown, List.append_nil]
      exact divided.divided

theorem divided_run (writer : PolledWriter σ UInt8 ε) (header : List UInt8) (sink : σ)
    (calls : List WriteCall) : Divided header
      (run (call writer) (start header sink : WriteHistory Header ParseError σ) calls) :=
  (reaches_run_anyLabel _ calls).invariant (Divided header)
    (fun _ call _ divided => divided_call divided call) (divided_start header sink)

/-- Nothing of the header is pending exactly when it was accepted as a whole. -/
theorem Divided.pending_eq_nil_iff (divided : Divided header history) :
    history.stream.writeState.pending = [] ↔ header <+: accepted history.requests := by
  constructor
  · intro none
    have all := divided.divided
    rw [none, List.append_nil] at all
    rw [all]
    exact List.prefix_append header history.returned
  · intro whole
    cases state : history.stream.writeState with
    | none => rfl
    | writing buf =>
        have all := divided.divided
        rw [divided.unreturned (by rw [state]; nofun), List.append_nil, state] at all
        have short := congrArg List.length all
        have long := whole.length_le
        rw [List.length_append] at short
        exact List.length_eq_zero_iff.1 (by omega)

/-- The bytes that the inner writer accepted are always a prefix of the header and the
payload that was answered for, and an answer for payload comes after the whole header. -/
theorem headerFirst (writer : PolledWriter σ UInt8 ε) (header : List UInt8) (sink : σ)
    (calls : List WriteCall) :
    let history := run (call writer) (start header sink : WriteHistory Header ParseError σ) calls
    accepted history.requests <+: header ++ history.returned ∧
      ∀ passes buf written,
        (history.stream.pollWrite writer.recorded passes buf).1 = some (.ready (.ok written)) →
          header <+: accepted (history.call writer (.pollWrite passes buf)).requests := by
  intro history
  have divided : Divided header history := divided_run writer header sink calls
  refine ⟨⟨_, divided.divided⟩, ?_⟩
  intro passes buf written answered
  refine (divided_call divided _).pending_eq_nil_iff.1 ?_
  obtain ⟨state, _, -, same, -, ⟨-, -, unanswered⟩ | ⟨_, none, -, -⟩⟩ :=
    history.call_pollWrite_cases writer passes buf
  · exact absurd answered (unanswered written)
  · rw [same, none]
    rfl

/-- The call is a flush or a shutdown that returns `Ready(Ok)`. -/
def Finishes (writer : PolledWriter σ UInt8 ε) (history : WriteHistory Header ParseError σ) :
    WriteCall → Prop
  | .pollWrite _ _ => False
  | .pollFlush => (history.stream.pollFlush writer.recorded).1 = .ready (.ok ())
  | .pollShutdown => (history.stream.pollShutdown writer.recorded).1 = .ready (.ok ())

/-- The inner writer has the complete header when a flush or a shutdown succeeds, and before
it is asked to shut down. -/
structure NeverUnfinished (writer : PolledWriter σ UInt8 ε) (header : List UInt8)
    (start : WriteHistory Header ParseError σ) (calls : List WriteCall) : Prop where
  finishes : ∀ earlier op later, calls = earlier ++ op :: later →
    (run (call writer) start earlier).Finishes writer op →
      header <+: accepted (run (call writer) start (earlier ++ [op])).requests
  shutdowns : ∀ before after, (run (call writer) start calls).requests =
    before ++ .shutdown :: after → header <+: accepted before

/-- The stream is not asked to shut down while a part of its header is pending, nor to flush,
unless the inner writer does not succeed in that. -/
def Timely (writer : PolledWriter σ UInt8 ε) (history : WriteHistory Header ParseError σ) :
    WriteCall → Prop
  | .pollWrite _ _ => True
  | .pollFlush => history.stream.writeState.pending = [] ∨
      (writer.pollFlush history.stream.inner.1).1 ≠ .ready (.ok ())
  | .pollShutdown => history.stream.writeState.pending = []

/-- What a call adds to the requests; only `poll_shutdown` asks for a shutdown. -/
theorem requests_call (writer : PolledWriter σ UInt8 ε)
    (history : WriteHistory Header ParseError σ) (op : WriteCall) :
    ∃ more, (history.call writer op).requests = history.requests ++ more ∧
      (.shutdown ∈ more → op = .pollShutdown ∧ more = [.shutdown]) := by
  cases op with
  | pollWrite passes buf =>
      obtain ⟨_, sink, advances, -, -, ⟨same, -⟩ | ⟨payload, -, same, -⟩⟩ :=
        history.call_pollWrite_cases writer passes buf
      · obtain ⟨more, grown, calm⟩ := advances.writes
        exact ⟨more, same.trans grown, fun asked => absurd asked calm⟩
      · obtain ⟨more, grown, calm⟩ := advances.writes
        refine ⟨more ++ [.write payload], ?_, fun asked => ?_⟩
        · rw [same, grown, List.append_assoc]
          rfl
        · simp [calm] at asked
  | pollFlush => exact ⟨[.flush], rfl, fun asked => by simp at asked⟩
  | pollShutdown => exact ⟨[.shutdown], rfl, fun _ => ⟨rfl, rfl⟩⟩

theorem requests_run (writer : PolledWriter σ UInt8 ε)
    (history : WriteHistory Header ParseError σ) (calls : List WriteCall) :
    history.requests <+: (run (call writer) history calls).requests := by
  induction calls generalizing history with
  | nil => exact List.prefix_rfl
  | cons op calls ih =>
      obtain ⟨more, grown, -⟩ := requests_call writer history op
      have first : history.requests <+: (history.call writer op).requests := ⟨more, grown.symm⟩
      exact first.trans (ih _)

/-- A request for a shutdown was made by a call of `poll_shutdown`, and what was accepted
before the call was accepted before the request. -/
theorem shutdown_requested {start : WriteHistory Header ParseError σ} {calls : List WriteCall}
    {before after : List (WriteRequest UInt8)} (fresh : start.requests = [])
    (asked : (run (call writer) start calls).requests = before ++ .shutdown :: after) :
    ∃ earlier later, calls = earlier ++ .pollShutdown :: later ∧
      (run (call writer) start earlier).requests = before := by
  induction calls using List.reverseRecOn generalizing after with
  | nil =>
      rw [run_nil, fresh] at asked
      simp at asked
  | append_singleton calls op ih =>
      rw [run_append, run_cons, run_nil] at asked
      obtain ⟨more, grown, only⟩ := requests_call writer (run (call writer) start calls) op
      rw [grown] at asked
      have here : more = .shutdown :: after → (run (call writer) start calls).requests = before →
          ∃ earlier later, calls ++ [op] = earlier ++ .pollShutdown :: later ∧
            (run (call writer) start earlier).requests = before := by
        intro added same
        obtain ⟨rfl, -⟩ := only (added ▸ List.mem_cons_self)
        exact ⟨calls, [], rfl, same⟩
      obtain ⟨rest, same, added⟩ | ⟨rest, same, added⟩ := List.append_eq_append_iff.1 asked
      · have single := (only (added ▸ List.mem_append_right rest List.mem_cons_self)).2
        have none : rest = [] := by
          have size := congrArg List.length (single.symm.trans added)
          simp at size
          exact List.length_eq_zero_iff.1 (by omega)
        rw [none] at added same
        exact here added (same.trans (List.append_nil _)).symm
      · cases rest with
        | nil => exact here added.symm (same.trans (List.append_nil _))
        | cons request rest =>
            cases added
            obtain ⟨earlier, later, rfl, before⟩ := ih same
            exact ⟨earlier, later ++ [op], by simp, before⟩

/-- For every writer and every sequence of calls: the header comes before the end of the
stream exactly when every flush and every shutdown is timely. -/
theorem neverUnfinished_iff (writer : PolledWriter σ UInt8 ε) (header : List UInt8) (sink : σ)
    (calls : List WriteCall) :
    NeverUnfinished writer header (start header sink : WriteHistory Header ParseError σ) calls ↔
      Admitted (call writer) (Timely writer)
        (start header sink : WriteHistory Header ParseError σ) calls := by
  rw [admitted_iff_forall]
  have divided : ∀ calls, Divided header
      (run (call writer) (start header sink : WriteHistory Header ParseError σ) calls) :=
    divided_run writer header sink
  constructor
  · intro unfinished earlier op later same
    have before := divided earlier
    cases op with
    | pollWrite => trivial
    | pollFlush =>
        by_cases fails : (writer.pollFlush
            (run (call writer) (start header sink : WriteHistory Header ParseError σ)
              earlier).stream.inner.1).1 = .ready (.ok ())
        · left
          have whole := unfinished.finishes earlier .pollFlush later same fails
          rw [run_append, run_cons, run_nil, requests_pollFlush, accepted_append, accepted_flush,
            List.append_nil] at whole
          exact before.pending_eq_nil_iff.2 whole
        · exact .inr fails
    | pollShutdown =>
        -- the request is on record at the end of the run
        obtain ⟨rest, grown⟩ := requests_run writer
          (run (call writer) (start header sink : WriteHistory Header ParseError σ)
            (earlier ++ [.pollShutdown])) later
        rw [← run_append, List.append_assoc, List.singleton_append, ← same, run_append, run_cons,
          run_nil, requests_pollShutdown, List.append_assoc] at grown
        exact before.pending_eq_nil_iff.2 (unfinished.shutdowns _ _ grown.symm)
  · intro timely
    have whole : ∀ earlier later, calls = earlier ++ .pollShutdown :: later →
        header <+: accepted (run (call writer)
          (start header sink : WriteHistory Header ParseError σ) earlier).requests :=
      fun earlier later same => (divided earlier).pending_eq_nil_iff.1 (timely _ _ _ same)
    refine ⟨?_, ?_⟩
    · intro earlier op later same finishes
      rw [run_append, run_cons, run_nil]
      cases op with
      | pollWrite => exact finishes.elim
      | pollFlush =>
          have written := (timely _ _ _ same).resolve_right fun fails => fails finishes
          rw [requests_pollFlush, accepted_append, accepted_flush, List.append_nil]
          exact (divided earlier).pending_eq_nil_iff.1 written
      | pollShutdown =>
          rw [requests_pollShutdown, accepted_append, accepted_shutdown, List.append_nil]
          exact whole earlier later same
    · intro before after asked
      obtain ⟨earlier, later, same, rfl⟩ := shutdown_requested rfl asked
      exact whole earlier later same

/-- The first call of a copying loop can be a shutdown, when there is nothing to copy. -/
theorem not_neverUnfinished_shutdown :
    ¬ NeverUnfinished (PolledWriter.eager UInt8 Empty) [80, 82, 79, 88, 89]
      (start [80, 82, 79, 88, 89] () : WriteHistory Unit Unit Unit) [.pollShutdown] := by
  intro unfinished
  have whole := unfinished.shutdowns [] [] rfl
  exact absurd whole (by decide)

end WriteHistory

end ProxyProto

end NgrokRust
