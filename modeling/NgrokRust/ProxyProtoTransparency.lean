import NgrokRust.ProxyProtoStream

/-!
# The incoming stream is transparent

The inner stream is read on record, so what it has handed out stands beside what the
wrapped stream has returned and what it still holds in its buffer.
-/

namespace NgrokRust

namespace ProxyProto

open LabelledRuns

variable {Header ParseError ε σ : Type*}

/-- The calls on a stream, one poll at a time. -/
inductive StreamOp where
  | pollProxyHeader
  | pollRead (remaining : Nat)
deriving DecidableEq

/-- A stream over a recorded reader, the bytes that its `poll_read` put into the
buffers of its callers, and the results of `proxy_header`. -/
structure History (Header ParseError σ : Type*) where
  stream : Stream Header ParseError (σ × List UInt8)
  returned : List UInt8
  answers : List (Except ParseError (Option Header))
deriving DecidableEq

namespace History

/-- The bytes taken from the inner reader. -/
def taken (history : History Header ParseError σ) : List UInt8 := history.stream.inner.2

def start (stream : Stream Header ParseError (σ × List UInt8)) :
    History Header ParseError σ where
  stream := stream
  returned := []
  answers := []

/-- The answer that a poll of `proxy_header` adds. -/
def answerOf : Poll (Except ε (Except ParseError (Option Header))) →
    List (Except ParseError (Option Header))
  | .ready (.ok answer) => [answer]
  | _ => []

def step (parser : Parser Header ParseError) (reader : PolledReader σ UInt8 ε)
    (history : History Header ParseError σ) : StreamOp → History Header ParseError σ
  | .pollProxyHeader =>
      match history.stream.pollProxyHeader parser reader.recorded with
      | some (polled, stream) =>
          { history with stream := stream, answers := history.answers ++ answerOf polled }
      | none => history
  | .pollRead remaining =>
      match history.stream.pollRead parser reader.recorded remaining with
      | some (attempt, stream) =>
          { history with stream := stream, returned := history.returned ++ attempt.filled }
      | none => history

/-- The call comes to an end. -/
def returns (parser : Parser Header ParseError) (reader : PolledReader σ UInt8 ε)
    (history : History Header ParseError σ) : StreamOp → Prop
  | .pollProxyHeader => (history.stream.pollProxyHeader parser reader.recorded).isSome
  | .pollRead remaining => (history.stream.pollRead parser reader.recorded remaining).isSome

instance (parser : Parser Header ParseError) (reader : PolledReader σ UInt8 ε)
    (history : History Header ParseError σ) :
    ∀ op, Decidable (returns parser reader history op)
  | .pollProxyHeader => inferInstanceAs (Decidable (_ = true))
  | .pollRead _ => inferInstanceAs (Decidable (_ = true))

/-- What was returned and what is buffered are the bytes taken from the inner reader,
less the bytes that were parsed as a header when there is one. -/
def Transparent (parser : Parser Header ParseError) (history : History Header ParseError σ) :
    Prop :=
  match history.stream.readState with
  | .header (some hdr) remainder =>
      ∃ view consumed, view <+: history.taken ∧ parser.parse view = .header hdr consumed ∧
        history.returned ++ remainder = history.taken.drop consumed
  | state => history.returned ++ state.buffered = history.taken

end History

namespace ReadState

/-- Before the first byte is handed out: the buffer holds all that was read, or all of it
that comes behind the header. -/
def Holds (parser : Parser Header ParseError) (read : List UInt8) :
    ReadState Header ParseError → Prop
  | .header (some hdr) remainder =>
      ∃ consumed, parser.parse read = .header hdr consumed ∧ remainder = read.drop consumed
  | .none => False
  | state => state.buffered = read

variable {parser : Parser Header ParseError} {reader : PolledReader σ UInt8 ε}
  {state next : ReadState Header ParseError}

theorem holds_ended (lastErr : Option ParseError) (read : List UInt8) :
    (ended lastErr read).Holds parser read := by
  cases lastErr <;> rfl

theorem holds_tryParse (lastErr : Option ParseError) (read : List UInt8) :
    (tryParse ε parser lastErr read).2.Holds parser read := by
  obtain ⟨-, same⟩ | ⟨-, ⟨hdr, consumed, parsed, same⟩ | ⟨-, same⟩ | ⟨_, -, ⟨-, same⟩ | ⟨-, same⟩⟩⟩ :=
    tryParse_cases ε parser lastErr read
  · rw [same]
    rfl
  · rw [same]
    exact ⟨consumed, parsed, rfl⟩
  · rw [same]
    rfl
  · rw [same]
    rfl
  · rw [same]
    rfl

/-- No pass loses a byte that it took from the reader. -/
theorem holds_headerRound {source : σ × List UInt8} (holds : state.Holds parser source.2) :
    (headerRound parser reader.recorded state source).2.1.Holds parser
      (headerRound parser reader.recorded state source).2.2.2 := by
  cases state with
  | reading lastErr hdrBuf =>
      have held : hdrBuf = source.2 := holds
      subst held
      obtain ⟨-, _, -, -, ends⟩ | ⟨-, -, waits⟩ | ⟨-, -, -, parses⟩ | ⟨-, parses⟩ :=
        headerRound_cases parser reader.recorded lastErr source.2 source
      · rw [ends, PolledReader.recorded_record]
        exact holds_ended _ _
      · rw [waits, PolledReader.recorded_record]
        rfl
      · rw [parses, PolledReader.recorded_record]
        exact holds_tryParse _ _
      · rw [parses]
        exact holds_tryParse _ _
  | error => exact holds
  | header => exact holds
  | none => exact holds

end ReadState

namespace History

variable {parser : Parser Header ParseError} {reader : PolledReader σ UInt8 ε}
  {history : History Header ParseError σ}

/-- Either nothing has been handed out yet and the buffer holds everything, or the end
state has been reached. -/
structure Sound (parser : Parser Header ParseError) (history : History Header ParseError σ) :
    Prop where
  transparent : history.Transparent parser
  undecided : ¬ history.stream.readState.Decided →
    history.returned = [] ∧ history.stream.readState.Holds parser history.taken
  answered : ∀ answer ∈ history.answers,
    history.stream.readState.Decided ∧ answer = history.stream.readState.header?

theorem sound_incoming (source : σ) :
    (start (Stream.incoming (source, [])) : History Header ParseError σ).Sound parser where
  transparent := rfl
  undecided := fun _ => ⟨rfl, rfl⟩
  answered := by simp [start]

theorem transparent_of_holds (untouched : history.returned = [])
    (holds : history.stream.readState.Holds parser history.taken) :
    history.Transparent parser := by
  unfold Transparent
  split
  · rename_i hdr remainder header
    rw [header] at holds
    obtain ⟨consumed, parsed, rest⟩ := holds
    exact ⟨history.taken, consumed, List.prefix_rfl, parsed, by simp [untouched, rest]⟩
  · rename_i noHeader
    rw [untouched, List.nil_append]
    cases state : history.stream.readState with
    | reading lastErr hdrBuf => rw [state] at holds; exact holds
    | error err remainder => rw [state] at holds; exact holds
    | header hdr remainder =>
        cases hdr with
        | none => rw [state] at holds; exact holds
        | some hdr => exact absurd state (noHeader hdr remainder)
    | none => simp [state, ReadState.Holds] at holds

def afterHeader (history : History Header ParseError σ) (readState : ReadState Header ParseError)
    (inner : σ × List UInt8) : History Header ParseError σ :=
  { history with stream := { history.stream with readState := readState, inner := inner } }

theorem Sound.afterHeader (sound : history.Sound parser) {polled : Poll (Except ε Unit)}
    {readState : ReadState Header ParseError} {inner : σ × List UInt8}
    (call : ReadState.pollReadHeaderOnce parser reader.recorded history.stream.readState
      history.stream.inner = some (polled, readState, inner)) :
    (history.afterHeader readState inner).Sound parser := by
  by_cases decided : history.stream.readState.Decided
  · rw [ReadState.pollReadHeaderOnce_of_decided decided] at call
    cases call
    exact sound
  · obtain ⟨untouched, holds⟩ := sound.undecided decided
    have kept : readState.Holds parser inner.2 :=
      ReadState.headerLoop_induction (fun state source => state.Holds parser source.2)
        ReadState.holds_headerRound holds call
    refine ⟨transparent_of_holds untouched kept, fun _ => ⟨untouched, kept⟩, ?_⟩
    intro answer answered
    exact absurd (sound.answered answer answered).1 decided

/-- Part of the buffer is handed out. -/
theorem Sound.handOut (sound : history.Sound parser) {remainder : List UInt8} {amount : Nat}
    {readState : ReadState Header ParseError}
    (handed : (∃ err, history.stream.readState = .error err remainder ∧
        readState = .error err (remainder.drop amount)) ∨
      ∃ hdr, history.stream.readState = .header hdr remainder ∧
        readState = .header hdr (remainder.drop amount)) :
    Sound parser { history with
      stream := { history.stream with readState := readState }
      returned := history.returned ++ remainder.take amount } := by
  have transparent := sound.transparent
  obtain ⟨err, before, rfl⟩ | ⟨hdr, before, rfl⟩ := handed
  · refine ⟨?_, fun undecided => absurd trivial undecided, ?_⟩
    · simpa [Transparent, before, ReadState.buffered, taken] using transparent
    · intro answer answered
      simpa [before, ReadState.header?, ReadState.Decided] using sound.answered answer answered
  · refine ⟨?_, fun undecided => absurd trivial undecided, ?_⟩
    · cases hdr with
      | none => simpa [Transparent, before, ReadState.buffered, taken] using transparent
      | some hdr => simpa [Transparent, before, taken] using transparent
    · intro answer answered
      simpa [before, ReadState.header?, ReadState.Decided] using sound.answered answer answered

/-- With an empty buffer the bytes of the inner stream go straight to the caller. -/
theorem Sound.readInner (reader : PolledReader σ UInt8 ε) (sound : history.Sound parser)
    (decided : history.stream.readState.Decided)
    (empty : history.stream.readState.buffered = []) (remaining : Nat) :
    Sound parser { history with
      stream := (history.stream.pollReadInner reader.recorded remaining).2
      returned := history.returned ++
        (history.stream.pollReadInner reader.recorded remaining).1.filled } := by
  refine ⟨?_, fun undecided => absurd decided undecided, sound.answered⟩
  have transparent := sound.transparent
  set filled := (history.stream.pollReadInner reader.recorded remaining).1.filled with filledEq
  have record : (history.stream.pollReadInner reader.recorded remaining).2.inner.2 =
      history.taken ++ filled := rfl
  unfold Transparent at transparent ⊢
  change match history.stream.readState with
    | .header (some hdr) remainder => _
    | state => _
  cases state : history.stream.readState with
  | reading lastErr hdrBuf => rw [state] at decided; exact decided.elim
  | error err remainder =>
      rw [state] at transparent empty
      change remainder = [] at empty
      subst empty
      simpa [taken, record, ReadState.buffered] using transparent
  | none =>
      rw [state] at transparent
      simpa [taken, record, ReadState.buffered] using transparent
  | header hdr remainder =>
      rw [state] at transparent empty
      change remainder = [] at empty
      subst empty
      cases hdr with
      | none => simpa [taken, record, ReadState.buffered] using transparent
      | some hdr =>
          obtain ⟨view, consumed, isPrefix, parsed, handed⟩ := transparent
          have short : consumed ≤ history.taken.length :=
            (parser.consumes parsed).trans isPrefix.length_le
          refine ⟨view, consumed, isPrefix.trans (List.prefix_append _ filled), parsed, ?_⟩
          change history.returned ++ filled ++ [] = (history.taken ++ filled).drop consumed
          rw [List.drop_append_of_le_length short, ← handed]
          simp

theorem sound_pollProxyHeader (sound : history.Sound parser) :
    (history.step parser reader .pollProxyHeader).Sound parser := by
  unfold step
  dsimp only
  unfold Stream.pollProxyHeader
  cases call : ReadState.pollReadHeaderOnce parser reader.recorded history.stream.readState
      history.stream.inner with
  | none => exact sound
  | some outcome =>
      obtain ⟨polled, readState, inner⟩ := outcome
      have called := sound.afterHeader call
      cases polled with
      | pending =>
          refine ⟨called.transparent, called.undecided, ?_⟩
          change ∀ answer ∈ history.answers ++ [], _
          rw [List.append_nil]
          exact called.answered
      | ready res =>
          cases res with
          | error err =>
              refine ⟨called.transparent, called.undecided, ?_⟩
              change ∀ answer ∈ history.answers ++ [], _
              rw [List.append_nil]
              exact called.answered
          | ok =>
              refine ⟨called.transparent, called.undecided, ?_⟩
              intro answer answered
              obtain old | new := List.mem_append.1 answered
              · exact called.answered answer old
              · exact ⟨ReadState.decided_of_ready call, List.mem_singleton.1 new⟩

theorem sound_pollRead (sound : history.Sound parser) (remaining : Nat) :
    (history.step parser reader (.pollRead remaining)).Sound parser := by
  unfold step
  dsimp only
  split
  · rename_i attempt stream returned
    obtain ⟨polled, readState, inner, call, waits | handsOut | readsInner⟩ :=
      Stream.pollRead_cases returned
    · obtain ⟨empty, rfl⟩ := waits
      rw [empty, List.append_nil]
      exact sound.afterHeader call
    · obtain ⟨remainder, amount, next, filled, handed, rfl⟩ := handsOut
      rw [filled]
      exact (sound.afterHeader call).handOut handed
    · obtain ⟨decided, empty, inner⟩ := readsInner
      have called := (sound.afterHeader call).readInner reader decided empty remaining
      obtain ⟨rfl, rfl⟩ := Prod.mk.inj inner
      exact called
  · exact sound

theorem sound_step (op : StreamOp) (sound : history.Sound parser) :
    (history.step parser reader op).Sound parser := by
  cases op with
  | pollProxyHeader => exact sound_pollProxyHeader sound
  | pollRead remaining => exact sound_pollRead sound remaining

/-- An end state stays one, with the same header. -/
theorem header?_step (op : StreamOp) (decided : history.stream.readState.Decided) :
    (history.step parser reader op).stream.readState.Decided ∧
      (history.step parser reader op).stream.readState.header? =
        history.stream.readState.header? := by
  have same : ReadState.pollReadHeaderOnce parser reader.recorded history.stream.readState
      history.stream.inner =
        some (.ready (.ok ()), history.stream.readState, history.stream.inner) :=
    ReadState.pollReadHeaderOnce_of_decided decided
  cases op with
  | pollProxyHeader =>
      have unchanged : (history.step parser reader .pollProxyHeader).stream = history.stream := by
        simp only [step, Stream.pollProxyHeader, same]
      rw [unchanged]
      exact ⟨decided, rfl⟩
  | pollRead remaining =>
      unfold step
      dsimp only
      split
      · rename_i attempt stream returned
        obtain ⟨polled, readState, inner, call, waits | handsOut | readsInner⟩ :=
          Stream.pollRead_cases returned
        all_goals rw [same] at call; cases call
        · obtain ⟨-, rfl⟩ := waits
          exact ⟨decided, rfl⟩
        · obtain ⟨remainder, amount, next, -, ⟨err, before, rfl⟩ | ⟨hdr, before, rfl⟩, rfl⟩ :=
            handsOut
          · rw [before]
            exact ⟨trivial, rfl⟩
          · rw [before]
            exact ⟨trivial, rfl⟩
        · obtain ⟨-, -, inner⟩ := readsInner
          obtain ⟨rfl, rfl⟩ := Prod.mk.inj inner
          exact ⟨decided, rfl⟩
      · exact ⟨decided, rfl⟩

/-- For every reader and every parser, the calls that come to an end return the bytes of
the inner stream without the header, and `proxy_header` always has the same result. -/
theorem transparent (parser : Parser Header ParseError) (reader : PolledReader σ UInt8 ε)
    (source : σ) {history : History Header ParseError σ}
    (reaches : Reaches (step parser reader) (returns parser reader)
      (start (Stream.incoming (source, []))) history) :
    history.Transparent parser ∧
      (∀ answer ∈ history.answers, answer = history.stream.readState.header?) ∧
      (history.stream.readState.Decided → ∀ later,
        Reaches (step parser reader) (returns parser reader) history later →
          later.stream.readState.Decided ∧
            later.stream.readState.header? = history.stream.readState.header?) := by
  have sound : history.Sound parser :=
    Reaches.invariant (Sound parser) (fun _ op _ holds => sound_step op holds) reaches
      (sound_incoming source)
  refine ⟨sound.transparent, fun answer answered => (sound.answered answer answered).2, ?_⟩
  intro decided later continues
  refine Reaches.invariant
    (fun later => later.stream.readState.Decided ∧
      later.stream.readState.header? = history.stream.readState.header?)
    ?_ continues ⟨decided, rfl⟩
  intro state op _ holds
  obtain ⟨stays, same⟩ : (state.step parser reader op).stream.readState.Decided ∧
      (state.step parser reader op).stream.readState.header? = state.stream.readState.header? :=
    header?_step op holds.1
  exact ⟨stays, same.trans holds.2⟩

/-- `PROXY UNKNOWN` and `hello`, in reads of ten and of five bytes with a wait between
them. -/
theorem transparent_hello :
    let delivery : Delivery UInt8 :=
      ⟨[80, 82, 79, 88, 89, 32, 85, 78, 75, 78, 79, 87, 78, 13, 10, 104, 101, 108, 108, 111],
        [some 9, none, some 9]⟩
    let history := run (step Parser.version1 (Delivery.reader UInt8 Unit))
      (start (Stream.incoming (delivery, [])))
      [.pollRead 3, .pollProxyHeader, .pollRead 3, .pollRead 8, .pollProxyHeader]
    history.returned = [104, 101, 108, 108, 111] ∧ history.answers.length = 2 ∧
      history.Transparent Parser.version1 := by
  intro delivery history
  have reaches : Reaches (step Parser.version1 (Delivery.reader UInt8 Unit))
      (returns Parser.version1 (Delivery.reader UInt8 Unit))
      (start (Stream.incoming (delivery, []))) history :=
    reaches_run (by decide +kernel)
  refine ⟨by decide +kernel, by decide +kernel, ?_⟩
  -- the run need not be evaluated any more
  clear_value history
  exact (transparent Parser.version1 (Delivery.reader UInt8 Unit) delivery reaches).1

end History

end ProxyProto

end NgrokRust
