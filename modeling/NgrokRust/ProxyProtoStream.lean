import NgrokRust.LabelledRuns
import NgrokRust.PolledReader

/-!
# The PROXY protocol stream

`ReadState::poll_read_header_once` reads from the inner stream until the parser has
found a header or has found that there is none.  The bytes it has read by then stay
in a buffer, which `Stream::poll_read` hands out before it polls the inner stream.

The parser of the `proxy_protocol` crate and the inner stream are parameters.
-/

namespace NgrokRust

namespace ProxyProto

open LabelledRuns

/-- The smallest possible TCP segment, which both versions of the header fit into. -/
def maxHeaderLen : Nat := 536

def minHeaderLen : Nat := 16

def carriageReturn : UInt8 := 13

/-- The answer of `proxy_protocol::parse` on a view: a header with the number of bytes
it took off the view, the error `NotProxyHeader`, or one of the other errors. -/
inductive Parsed (Header ParseError : Type*) where
  | header (hdr : Header) (consumed : Nat)
  | notProxyHeader
  | error (err : ParseError)
deriving DecidableEq

/-- A parser takes a prefix off its view. -/
structure Parser (Header ParseError : Type*) where
  parse : List UInt8 → Parsed Header ParseError
  consumes : ∀ {view hdr consumed}, parse view = .header hdr consumed → consumed ≤ view.length

/-- Version 1 in outline: a view that begins with `PROXY` is a header up to its first line
feed, and malformed without one. -/
def Parser.version1 : Parser (List UInt8) Unit where
  parse := fun view =>
    if [80, 82, 79, 88, 89] <+: view then
      match view.idxOf? 10 with
      | some length => .header (view.take length) (length + 1)
      | none => .error ()
    else .notProxyHeader
  consumes := by
    intro view hdr consumed parsed
    split at parsed
    · split at parsed
      · rename_i length found
        obtain ⟨found, -⟩ := List.idxOf?_eq_some_iff.1 found
        cases parsed
        exact found
      · cases parsed
    · cases parsed

inductive ReadState (Header ParseError : Type*) where
  | reading (lastErr : Option ParseError) (hdrBuf : List UInt8)
  | error (err : ParseError) (remainder : List UInt8)
  | header (hdr : Option Header) (remainder : List UInt8)
  | none
deriving DecidableEq

inductive WriteState where
  | writing (buf : List UInt8)
  | none
deriving DecidableEq

variable {Header ParseError ε σ : Type*}

namespace ReadState

def new : ReadState Header ParseError := .reading .none []

def header? : ReadState Header ParseError → Except ParseError (Option Header)
  | .error err _ => .error err
  | .reading (some err) _ => .error err
  | .none => .ok .none
  | .reading .none _ => .ok .none
  | .header hdr _ => .ok hdr

def buffered : ReadState Header ParseError → List UInt8
  | .reading _ hdrBuf => hdrBuf
  | .error _ remainder => remainder
  | .header _ remainder => remainder
  | .none => []

/-- The end states of `poll_read_header_once`. -/
def Decided : ReadState Header ParseError → Prop
  | .reading _ _ => False
  | _ => True

/-- The state at the end of the stream. -/
def ended (lastErr : Option ParseError) (hdrBuf : List UInt8) : ReadState Header ParseError :=
  match lastErr with
  | some err => .error err hdrBuf
  | .none => .header .none hdrBuf

/-- The second half of the loop body, where `none` stands for `continue`. A view that
ends in a carriage return is not parsed. -/
def tryParse (ε : Type*) (parser : Parser Header ParseError) (lastErr : Option ParseError)
    (hdrBuf : List UInt8) : Option (Poll (Except ε Unit)) × ReadState Header ParseError :=
  if hdrBuf.length < minHeaderLen ∨ hdrBuf.getLast? = some carriageReturn then
    (.none, .reading lastErr hdrBuf)
  else
    match parser.parse hdrBuf with
    | .header hdr consumed => (some (.ready (.ok ())), .header (some hdr) (hdrBuf.drop consumed))
    | .notProxyHeader => (some (.ready (.ok ())), .header .none hdrBuf)
    | .error err =>
        -- more bytes may still turn the error into a header
        if maxHeaderLen ≤ hdrBuf.length then (.none, .error err hdrBuf)
        else (.none, .reading (some err) hdrBuf)

/-- One pass through the loop of `poll_read_header_once`, where `none` stands for
`continue`. The bytes of a poll are kept whatever the poll answers. -/
def headerRound (parser : Parser Header ParseError) (reader : PolledReader σ UInt8 ε)
    (state : ReadState Header ParseError) (source : σ) :
    Option (Poll (Except ε Unit)) × ReadState Header ParseError × σ :=
  match state with
  | .reading lastErr hdrBuf =>
      if hdrBuf.length < maxHeaderLen then
        let read := reader.pollRead source (maxHeaderLen - hdrBuf.length)
        match read.1.polled with
        | .ready (.error err) =>
            (some (.ready (.error err)), ended lastErr (hdrBuf ++ read.1.filled), read.2)
        | .ready (.ok ()) =>
            if read.1.filled = [] then (some (.ready (.ok ())), ended lastErr hdrBuf, read.2)
            else
              let parsed := tryParse ε parser lastErr (hdrBuf ++ read.1.filled)
              (parsed.1, parsed.2, read.2)
        | .pending => (some .pending, .reading lastErr (hdrBuf ++ read.1.filled), read.2)
      else
        let parsed := tryParse ε parser lastErr hdrBuf
        (parsed.1, parsed.2, source)
  | endState => (some (.ready (.ok ())), endState, source)

/-- The loop, cut off after some passes. -/
def headerLoop (parser : Parser Header ParseError) (reader : PolledReader σ UInt8 ε) :
    Nat → ReadState Header ParseError → σ →
      Option (Poll (Except ε Unit) × ReadState Header ParseError × σ)
  | 0, _, _ => .none
  | passes + 1, state, source =>
      match headerRound parser reader state source with
      | (some polled, state, source) => some (polled, state, source)
      | (.none, state, source) => headerLoop parser reader passes state source

/-- The outcome of a call, and `none` when the loop runs on forever: by
`headerLoop_bounded` no outcome takes more passes than these. -/
def pollReadHeaderOnce (parser : Parser Header ParseError) (reader : PolledReader σ UInt8 ε) :
    ReadState Header ParseError → σ →
      Option (Poll (Except ε Unit) × ReadState Header ParseError × σ) :=
  headerLoop parser reader (maxHeaderLen + 2)

variable {parser : Parser Header ParseError} {reader : PolledReader σ UInt8 ε}
  {state next : ReadState Header ParseError} {source after : σ}

@[simp]
theorem ended_buffered (lastErr : Option ParseError) (hdrBuf : List UInt8) :
    (ended lastErr hdrBuf : ReadState Header ParseError).buffered = hdrBuf := by
  cases lastErr <;> rfl

theorem ended_decided (lastErr : Option ParseError) (hdrBuf : List UInt8) :
    (ended lastErr hdrBuf : ReadState Header ParseError).Decided := by
  cases lastErr <;> trivial

/-- A view is left alone, or parsed with one of the answers of the parser. -/
theorem tryParse_cases (ε : Type*) (parser : Parser Header ParseError)
    (lastErr : Option ParseError) (view : List UInt8) :
    ((view.length < minHeaderLen ∨ view.getLast? = some carriageReturn) ∧
        tryParse ε parser lastErr view = (.none, .reading lastErr view)) ∨
      (¬ (view.length < minHeaderLen ∨ view.getLast? = some carriageReturn) ∧
        ((∃ hdr consumed, parser.parse view = .header hdr consumed ∧
            tryParse ε parser lastErr view =
              (some (.ready (.ok ())), .header (some hdr) (view.drop consumed))) ∨
          (parser.parse view = .notProxyHeader ∧
            tryParse ε parser lastErr view = (some (.ready (.ok ())), .header .none view)) ∨
          ∃ err, parser.parse view = .error err ∧
            (maxHeaderLen ≤ view.length ∧
                tryParse ε parser lastErr view = (.none, .error err view) ∨
              view.length < maxHeaderLen ∧
                tryParse ε parser lastErr view = (.none, .reading (some err) view)))) := by
  by_cases skipped : view.length < minHeaderLen ∨ view.getLast? = some carriageReturn
  · left
    exact ⟨skipped, by simp [tryParse, skipped]⟩
  · right
    refine ⟨skipped, ?_⟩
    cases parsed : parser.parse view with
    | header hdr consumed =>
        left
        exact ⟨hdr, consumed, rfl, by simp [tryParse, skipped, parsed]⟩
    | notProxyHeader =>
        right; left
        exact ⟨rfl, by simp [tryParse, skipped, parsed]⟩
    | error err =>
        right; right
        refine ⟨err, rfl, ?_⟩
        by_cases full : maxHeaderLen ≤ view.length
        · left
          exact ⟨full, by simp [tryParse, skipped, parsed, full]⟩
        · right
          exact ⟨Nat.lt_of_not_le full, by simp [tryParse, skipped, parsed, full]⟩

theorem tryParse_answer (ε : Type*) (parser : Parser Header ParseError)
    (lastErr : Option ParseError) (view : List UInt8) :
    (tryParse ε parser lastErr view).1 = .none ∨
      (tryParse ε parser lastErr view).1 = some (.ready (.ok ())) := by
  unfold tryParse
  split
  · exact .inl rfl
  · split
    · exact .inr rfl
    · exact .inr rfl
    · split <;> exact .inl rfl

/-- All that a pass can do in the state `Reading`: reach the end of the stream, wait,
parse after a read, or parse a full buffer again. -/
theorem headerRound_cases (parser : Parser Header ParseError) (reader : PolledReader σ UInt8 ε)
    (lastErr : Option ParseError) (hdrBuf : List UInt8) (source : σ) :
    let read := reader.pollRead source (maxHeaderLen - hdrBuf.length)
    let round := headerRound parser reader (.reading lastErr hdrBuf) source
    (hdrBuf.length < maxHeaderLen ∧ ∃ res, read.1.polled = .ready res ∧
        (res = .ok () → read.1.filled = []) ∧
        round = (some (.ready res), ended lastErr (hdrBuf ++ read.1.filled), read.2)) ∨
      (hdrBuf.length < maxHeaderLen ∧ read.1.polled = .pending ∧
        round = (some .pending, .reading lastErr (hdrBuf ++ read.1.filled), read.2)) ∨
      (hdrBuf.length < maxHeaderLen ∧ read.1.polled = .ready (.ok ()) ∧ read.1.filled ≠ [] ∧
        round = ((tryParse ε parser lastErr (hdrBuf ++ read.1.filled)).1,
          (tryParse ε parser lastErr (hdrBuf ++ read.1.filled)).2, read.2)) ∨
      (maxHeaderLen ≤ hdrBuf.length ∧
        round = ((tryParse ε parser lastErr hdrBuf).1,
          (tryParse ε parser lastErr hdrBuf).2, source)) := by
  intro read round
  by_cases fits : hdrBuf.length < maxHeaderLen
  · cases polled : read.1.polled with
    | pending => simp [round, headerRound, fits, read, polled]
    | ready res =>
        cases res with
        | error err => simp [round, headerRound, fits, read, polled]
        | ok =>
            by_cases empty : read.1.filled = []
            · simp [round, headerRound, fits, read, polled, empty]
            · simp [round, headerRound, fits, read, polled, empty]
  · simp [round, headerRound, fits, Nat.le_of_not_lt fits]

theorem headerRound_of_decided (decided : state.Decided) :
    headerRound parser reader state source = (some (.ready (.ok ())), state, source) := by
  cases state with
  | reading => exact decided.elim
  | error => rfl
  | header => rfl
  | none => rfl

theorem pollReadHeaderOnce_of_decided (decided : state.Decided) :
    pollReadHeaderOnce parser reader state source =
      some (.ready (.ok ()), state, source) := by
  simp [pollReadHeaderOnce, headerLoop, headerRound_of_decided decided]

/-- What a pass keeps, a call keeps. -/
theorem headerLoop_induction (Keeps : ReadState Header ParseError → σ → Prop)
    (pass : ∀ {state source}, Keeps state source →
      Keeps (headerRound parser reader state source).2.1
        (headerRound parser reader state source).2.2)
    {passes : Nat} {polled : Poll (Except ε Unit)} (keeps : Keeps state source)
    (returned : headerLoop parser reader passes state source = some (polled, next, after)) :
    Keeps next after := by
  induction passes generalizing state source with
  | zero => cases returned
  | succ passes ih =>
      have kept := pass keeps
      simp only [headerLoop] at returned
      split at returned
      · rename_i round
        cases returned
        simpa [round] using kept
      · rename_i round
        rw [round] at kept
        exact ih kept returned

theorem headerRound_decided {res : Except ε Unit}
    (round : headerRound parser reader state source = (some (.ready res), next, after)) :
    next.Decided := by
  cases state with
  | reading lastErr hdrBuf =>
      have parsed : ∀ view, (tryParse ε parser lastErr view).1 = some (.ready res) →
          (tryParse ε parser lastErr view).2.Decided := by
        intro view returned
        obtain ⟨-, same⟩ | ⟨-, ⟨_, _, -, same⟩ | ⟨-, same⟩ | ⟨_, -, ⟨-, same⟩ | ⟨-, same⟩⟩⟩ :=
          tryParse_cases ε parser lastErr view
        all_goals rw [same] at returned ⊢
        all_goals trivial
      obtain ⟨-, _, -, -, ended⟩ | ⟨-, -, waits⟩ | ⟨-, -, -, parses⟩ | ⟨-, parses⟩ :=
        headerRound_cases parser reader lastErr hdrBuf source
      · rw [ended] at round
        cases round
        exact ended_decided _ _
      · rw [waits] at round
        cases round
      · rw [parses] at round
        obtain ⟨ready, rest⟩ := Prod.mk.inj round
        obtain ⟨rfl, rfl⟩ := Prod.mk.inj rest
        exact parsed _ ready
      · rw [parses] at round
        obtain ⟨ready, rest⟩ := Prod.mk.inj round
        obtain ⟨rfl, rfl⟩ := Prod.mk.inj rest
        exact parsed _ ready
  | error => cases round; trivial
  | header => cases round; trivial
  | none => cases round; trivial

/-- A call that answers `Ready` leaves an end state behind. -/
theorem decided_of_ready {res : Except ε Unit}
    (returned : pollReadHeaderOnce parser reader state source = some (.ready res, next, after)) :
    next.Decided := by
  have general : ∀ passes state source,
      headerLoop parser reader passes state source = some (.ready res, next, after) →
        next.Decided := by
    intro passes
    induction passes with
    | zero => simp [headerLoop]
    | succ passes ih =>
        intro state source returned
        simp only [headerLoop] at returned
        split at returned
        · rename_i round
          cases returned
          exact headerRound_decided round
        · exact ih _ _ returned
  exact general _ _ _ returned

def passesLeft : ReadState Header ParseError → Nat
  | .reading _ hdrBuf => maxHeaderLen - hdrBuf.length + 2
  | _ => 1

/-- A pass that continues comes closer to the end of the call, or it has done nothing at
all and so will the next one. -/
theorem headerRound_continues
    (round : headerRound parser reader state source = (.none, next, after)) :
    next.passesLeft < state.passesLeft ∨ next = state ∧ after = source := by
  have parsed : ∀ lastErr view, (tryParse ε parser lastErr view).1 = .none →
      (∃ err, (tryParse ε parser lastErr view).2 = .reading err view ∧
        (maxHeaderLen ≤ view.length → err = lastErr)) ∨
      ∃ err, (tryParse ε parser lastErr view).2 = .error err view := by
    intro lastErr view continues
    obtain ⟨-, same⟩ | ⟨-, ⟨_, _, -, same⟩ | ⟨-, same⟩ | ⟨err, -, ⟨-, same⟩ | ⟨short, same⟩⟩⟩ :=
      tryParse_cases ε parser lastErr view
    · rw [same]
      exact .inl ⟨lastErr, rfl, fun _ => rfl⟩
    · rw [same] at continues
      cases continues
    · rw [same] at continues
      cases continues
    · rw [same]
      exact .inr ⟨err, rfl⟩
    · rw [same]
      exact .inl ⟨some err, rfl, fun full => absurd full (Nat.not_le_of_lt short)⟩
  cases state with
  | reading lastErr hdrBuf =>
      obtain ⟨-, _, -, -, ended⟩ | ⟨-, -, waits⟩ | ⟨fits, -, more, parses⟩ | ⟨full, parses⟩ :=
        headerRound_cases parser reader lastErr hdrBuf source
      · rw [ended] at round
        cases round
      · rw [waits] at round
        cases round
      · rw [parses] at round
        obtain ⟨continues, rest⟩ := Prod.mk.inj round
        obtain ⟨rfl, rfl⟩ := Prod.mk.inj rest
        left
        have longer := List.length_pos_of_ne_nil more
        obtain ⟨err, reads, -⟩ | ⟨err, fails⟩ := parsed _ _ continues
        · rw [reads]
          simp only [passesLeft, List.length_append]
          omega
        · rw [fails]
          simp only [passesLeft]
          omega
      · rw [parses] at round
        obtain ⟨continues, rest⟩ := Prod.mk.inj round
        obtain ⟨rfl, rfl⟩ := Prod.mk.inj rest
        obtain ⟨err, reads, same⟩ | ⟨err, fails⟩ := parsed _ _ continues
        · right
          rw [reads, same full]
          exact ⟨rfl, rfl⟩
        · left
          rw [fails]
          simp only [passesLeft]
          omega
  | error => cases round
  | header => cases round
  | none => cases round

theorem headerLoop_mono {passes larger : Nat} (more : passes ≤ larger)
    {outcome : Poll (Except ε Unit) × ReadState Header ParseError × σ}
    (returned : headerLoop parser reader passes state source = some outcome) :
    headerLoop parser reader larger state source = some outcome := by
  induction passes generalizing larger state source with
  | zero => cases returned
  | succ passes ih =>
      obtain ⟨larger, rfl⟩ : ∃ fewer, larger = fewer + 1 := ⟨larger - 1, by omega⟩
      simp only [headerLoop] at returned ⊢
      split at returned
      · exact returned
      · exact ih (by omega) returned

/-- Every outcome that some number of passes reaches is reached by
`pollReadHeaderOnce`. -/
theorem headerLoop_bounded {passes : Nat}
    {outcome : Poll (Except ε Unit) × ReadState Header ParseError × σ}
    (returned : headerLoop parser reader passes state source = some outcome) :
    pollReadHeaderOnce parser reader state source = some outcome := by
  have general : headerLoop parser reader state.passesLeft state source = some outcome := by
    induction passes generalizing state source with
    | zero => cases returned
    | succ passes ih =>
        simp only [headerLoop] at returned
        split at returned
        · rename_i round
          obtain ⟨left, enough⟩ : ∃ left, state.passesLeft = left + 1 := by
            cases state <;> exact ⟨_, rfl⟩
          rw [enough]
          simp only [headerLoop, round]
          exact returned
        · rename_i round
          obtain closer | ⟨rfl, rfl⟩ := headerRound_continues round
          · have continued := headerLoop_mono (Nat.le_sub_one_of_lt closer) (ih returned)
            obtain ⟨left, enough⟩ : ∃ left, state.passesLeft = left + 1 := by
              cases state <;> exact ⟨_, rfl⟩
            rw [enough] at continued ⊢
            simp only [headerLoop, round]
            exact continued
          · exact ih returned
  refine headerLoop_mono ?_ general
  cases state <;> simp only [passesLeft] <;> omega

end ReadState

/-- `Stream<S>`, where `inner` is the state of the stream below. -/
structure Stream (Header ParseError σ : Type*) where
  readState : ReadState Header ParseError
  writeState : WriteState
  inner : σ
deriving DecidableEq

namespace Stream

def incoming (inner : σ) : Stream Header ParseError σ where
  readState := .new
  writeState := .none
  inner := inner

def disabled (inner : σ) : Stream Header ParseError σ where
  readState := .none
  writeState := .none
  inner := inner

/-- The header comes encoded by the `proxy_protocol` crate. -/
def outgoing {EncodeError : Type*} (inner : σ) (encoded : Except EncodeError (List UInt8)) :
    Except EncodeError (Stream Header ParseError σ) :=
  match encoded with
  | .ok buf => .ok { readState := .none, writeState := .writing buf, inner := inner }
  | .error err => .error err

/-- One poll of the future that `proxy_header` awaits, with the reference it returns. -/
def pollProxyHeader (parser : Parser Header ParseError) (reader : PolledReader σ UInt8 ε)
    (stream : Stream Header ParseError σ) :
    Option (Poll (Except ε (Except ParseError (Option Header))) ×
      Stream Header ParseError σ) :=
  match ReadState.pollReadHeaderOnce parser reader stream.readState stream.inner with
  | none => none
  | some (polled, readState, inner) =>
      let stream := { stream with readState := readState, inner := inner }
      match polled with
      | .pending => some (.pending, stream)
      | .ready (.error err) => some (.ready (.error err), stream)
      | .ready (.ok ()) => some (.ready (.ok readState.header?), stream)

def pollReadInner (reader : PolledReader σ UInt8 ε) (stream : Stream Header ParseError σ)
    (remaining : Nat) : ReadAttempt UInt8 ε × Stream Header ParseError σ :=
  let read := reader.pollRead stream.inner remaining
  (read.1, { stream with inner := read.2 })

/-- `Stream::poll_read` into a buffer with `remaining` free bytes. -/
def pollRead (parser : Parser Header ParseError) (reader : PolledReader σ UInt8 ε)
    (stream : Stream Header ParseError σ) (remaining : Nat) :
    Option (ReadAttempt UInt8 ε × Stream Header ParseError σ) :=
  match ReadState.pollReadHeaderOnce parser reader stream.readState stream.inner with
  | none => none
  | some (polled, readState, inner) =>
      let stream := { stream with readState := readState, inner := inner }
      match polled with
      | .pending => some (⟨[], .pending⟩, stream)
      | .ready (.error err) => some (⟨[], .ready (.error err)⟩, stream)
      | .ready (.ok ()) =>
          match readState with
          | .error err remainder =>
              if remainder = [] then some (stream.pollReadInner reader remaining)
              else
                let available := min remainder.length remaining
                some (⟨remainder.take available, .ready (.ok ())⟩,
                  { stream with readState := .error err (remainder.drop available) })
          | .header hdr remainder =>
              if remainder = [] then some (stream.pollReadInner reader remaining)
              else
                let available := min remainder.length remaining
                some (⟨remainder.take available, .ready (.ok ())⟩,
                  { stream with readState := .header hdr (remainder.drop available) })
          | .none => some (stream.pollReadInner reader remaining)
          -- `unreachable!()`, see `decided_of_ready`
          | .reading _ _ => none

/-- A read that comes to an end waits or fails with the header, hands out a part of the
buffer, or goes on to the inner stream. -/
theorem pollRead_cases {parser : Parser Header ParseError} {reader : PolledReader σ UInt8 ε}
    {stream after : Stream Header ParseError σ} {remaining : Nat} {attempt : ReadAttempt UInt8 ε}
    (returned : stream.pollRead parser reader remaining = some (attempt, after)) :
    ∃ polled readState inner,
      ReadState.pollReadHeaderOnce parser reader stream.readState stream.inner =
        some (polled, readState, inner) ∧
      ((attempt.filled = [] ∧
          after = { stream with readState := readState, inner := inner }) ∨
        (∃ remainder amount next, attempt.filled = remainder.take amount ∧
          ((∃ err, readState = .error err remainder ∧ next = .error err (remainder.drop amount)) ∨
            ∃ hdr, readState = .header hdr remainder ∧
              next = .header hdr (remainder.drop amount)) ∧
          after = { stream with readState := next, inner := inner }) ∨
        (readState.Decided ∧ readState.buffered = [] ∧
          (attempt, after) = pollReadInner reader
            { stream with readState := readState, inner := inner } remaining)) := by
  unfold pollRead at returned
  cases call : ReadState.pollReadHeaderOnce parser reader stream.readState stream.inner with
  | none => simp [call] at returned
  | some outcome =>
      obtain ⟨polled, readState, inner⟩ := outcome
      refine ⟨polled, readState, inner, rfl, ?_⟩
      rw [call] at returned
      cases polled with
      | pending =>
          cases returned
          exact .inl ⟨rfl, rfl⟩
      | ready res =>
          cases res with
          | error err =>
              cases returned
              exact .inl ⟨rfl, rfl⟩
          | ok =>
              right
              cases readState with
              | reading => cases returned
              | error err remainder =>
                  by_cases empty : remainder = []
                  · simp only [empty, if_true, Option.some.injEq] at returned
                    exact .inr ⟨trivial, empty, by rw [empty, returned]⟩
                  · simp only [empty, if_false] at returned
                    cases returned
                    exact .inl ⟨remainder, _, _, rfl, .inl ⟨err, rfl, rfl⟩, rfl⟩
              | header hdr remainder =>
                  by_cases empty : remainder = []
                  · simp only [empty, if_true, Option.some.injEq] at returned
                    exact .inr ⟨trivial, empty, by rw [empty, returned]⟩
                  · simp only [empty, if_false] at returned
                    cases returned
                    exact .inl ⟨remainder, _, _, rfl, .inr ⟨hdr, rfl, rfl⟩, rfl⟩
              | none => exact .inr ⟨trivial, rfl, (Option.some.inj returned).symm⟩

end Stream

end ProxyProto

end NgrokRust
