import NgrokRust.ProxyProtoStream

/-!
# Header detection and the fragments of the stream

A sequence of bytes that ends with the stream can arrive in different reads.  Every
read leads to another attempt of the parser, except where the bytes so far are too few
or end in a carriage return; the last attempt is remembered until the stream ends.  Here
it is settled for which sequences the reads make no difference.
-/

namespace NgrokRust

namespace ProxyProto

variable {Header ParseError ε σ : Type*}

namespace Parser

/-- On a view of the minimum length, a header and the error `NotProxyHeader` are the same
on every extension of the view. -/
def Stable (parser : Parser Header ParseError) : Prop :=
  ∀ view more, minHeaderLen ≤ view.length → (∀ err, parser.parse view ≠ .error err) →
    parser.parse (view ++ more) = parser.parse view

theorem version1_stable : version1.Stable := by
  intro view more long decided
  simp only [version1] at decided ⊢
  by_cases begins : [80, 82, 79, 88, 89] <+: view
  · have still : [80, 82, 79, 88, 89] <+: view ++ more :=
      begins.trans (List.prefix_append view more)
    rw [if_pos begins] at decided ⊢
    rw [if_pos still]
    cases found : view.idxOf? 10 with
    | none => simp [found] at decided
    | some length =>
        have early : length ≤ view.length := (List.idxOf?_eq_some_iff.1 found).1.le
        have same : (view ++ more).idxOf? 10 = some length := by
          simp only [List.idxOf?] at found ⊢
          rw [List.findIdx?_append, found]
          rfl
        simp only [same]
        rw [List.take_append_of_le_length early]
  · have still : ¬ [80, 82, 79, 88, 89] <+: view ++ more := by
      intro extended
      apply begins
      refine List.prefix_of_prefix_length_le extended (List.prefix_append view more) ?_
      exact le_trans (by decide) long
    rw [if_neg begins, if_neg still]

end Parser

namespace Stream

/-- `proxy_header` under an executor that polls it again whenever it had to wait; `none`
stands for a call that has not come to an end after so many polls. -/
def proxyHeader (parser : Parser Header ParseError) (reader : PolledReader σ UInt8 ε) :
    Nat → Stream Header ParseError σ →
      Option (Except ε (Except ParseError (Option Header)) × Stream Header ParseError σ)
  | 0, _ => none
  | polls + 1, stream =>
      match stream.pollProxyHeader parser reader with
      | none => none
      | some (.pending, stream) => proxyHeader parser reader polls stream
      | some (.ready answer, stream) => some (answer, stream)

end Stream

/-- What the caller of `proxy_header` gets, with all errors of the parser taken as one,
and the bytes that can be read afterwards. -/
structure Detection (Header : Type*) where
  result : Except Unit (Option Header)
  readable : List UInt8
deriving DecidableEq

/-- `proxy_header` on a delivery that ends with the stream. Its script makes no more polls
wait than it has entries. -/
def detect (parser : Parser Header ParseError) (delivery : Delivery UInt8) :
    Option (Detection Header) :=
  match (Stream.incoming delivery).proxyHeader parser (Delivery.reader UInt8 Empty)
      (delivery.script.length + 1) with
  | some (.ok answer, stream) =>
      some ⟨answer.mapError fun _ => (), stream.readState.buffered ++ stream.inner.rest⟩
  | _ => none

/-- The bytes are parsed at the end of the header space whatever the reads were, or
nothing before a final carriage return could have been a header. -/
def SplitSafe (parser : Parser Header ParseError) (bytes : List UInt8) : Prop :=
  bytes.length < minHeaderLen ∨
    (bytes.take maxHeaderLen).getLast? ≠ some carriageReturn ∨
    (bytes.length < maxHeaderLen ∧ ∀ length, minHeaderLen ≤ length → length < bytes.length →
      (bytes.take length).getLast? ≠ some carriageReturn →
        parser.parse (bytes.take length) = .notProxyHeader)

/-- What is detected when the reads make no difference. -/
def expected (parser : Parser Header ParseError) (bytes : List UInt8) : Detection Header :=
  if bytes.length < minHeaderLen ∨ (bytes.take maxHeaderLen).getLast? = some carriageReturn then
    ⟨.ok none, bytes⟩
  else
    match parser.parse (bytes.take maxHeaderLen) with
    | .header hdr consumed => ⟨.ok (some hdr), bytes.drop consumed⟩
    | .notProxyHeader => ⟨.ok none, bytes⟩
    | .error _ => ⟨.error (), bytes⟩

namespace ReadState

variable {parser : Parser Header ParseError} {bytes : List UInt8}

/-- What is detected in an end state. -/
def detection (state : ReadState Header ParseError) (rest : List UInt8) : Detection Header where
  result := state.header?.mapError fun _ => ()
  readable := state.buffered ++ rest

/-- Nothing has been decided: the bytes are buffered or still to be read, there is room,
and the last error is that of an attempt on enough bytes. -/
structure Undecided (parser : Parser Header ParseError) (bytes : List UInt8)
    (lastErr : Option ParseError) (hdrBuf : List UInt8) (delivery : Delivery UInt8) : Prop where
  divided : hdrBuf ++ delivery.rest = bytes
  room : hdrBuf.length < maxHeaderLen
  short : hdrBuf.length < minHeaderLen → lastErr = .none
  /-- The whole sequence has been tried when there is nothing left to read. -/
  tried : delivery.rest = [] → minHeaderLen ≤ hdrBuf.length →
    hdrBuf.getLast? ≠ some carriageReturn →
      lastErr ≠ .none ∧ ∃ err, parser.parse hdrBuf = .error err
  calm : minHeaderLen ≤ bytes.length →
    (bytes.take maxHeaderLen).getLast? = some carriageReturn → lastErr = .none

/-- A pass leaves everything undecided or reaches an end state with the expected
detection. -/
def Expects (parser : Parser Header ParseError) (bytes : List UInt8)
    (state : ReadState Header ParseError) (delivery : Delivery UInt8) : Prop :=
  (∃ lastErr hdrBuf, state = .reading lastErr hdrBuf ∧
      Undecided parser bytes lastErr hdrBuf delivery) ∨
    state.Decided ∧ state.detection delivery.rest = expected parser bytes

theorem expects_incoming (delivery : Delivery UInt8) :
    Expects parser delivery.rest .new delivery := by
  refine .inl ⟨.none, [], rfl, rfl, by decide, fun _ => rfl, ?_, fun _ _ => rfl⟩
  intro _ long
  exact absurd long (by decide)

/-- The stream has ended. -/
theorem expects_ended {lastErr : Option ParseError} {hdrBuf : List UInt8}
    {delivery after : Delivery UInt8}
    (undecided : Undecided parser bytes lastErr hdrBuf delivery) (drained : delivery.rest = [])
    (nothing : after.rest = []) : Expects parser bytes (ended lastErr hdrBuf) after := by
  right
  refine ⟨ended_decided _ _, ?_⟩
  have whole : hdrBuf = bytes := by
    have divided := undecided.divided
    rwa [drained, List.append_nil] at divided
  subst whole
  have all : hdrBuf.take maxHeaderLen = hdrBuf := List.take_of_length_le undecided.room.le
  unfold expected
  rw [all]
  split
  · rename_i skipped
    have noError : lastErr = .none := by
      by_cases few : hdrBuf.length < minHeaderLen
      · exact undecided.short few
      · refine undecided.calm (Nat.le_of_not_lt few) ?_
        rw [all]
        exact skipped.resolve_left few
    subst noError
    simp [detection, header?, ReadState.ended, buffered, nothing, Except.mapError]
  · rename_i parses
    push Not at parses
    obtain ⟨failed, err, parsed⟩ := undecided.tried drained parses.1 parses.2
    rw [parsed]
    cases lastErr with
    | none => exact absurd rfl failed
    | some lastErr =>
        simp [detection, header?, ReadState.ended, buffered, nothing, Except.mapError]

theorem take_maxHeaderLen {view rest : List UInt8} (divided : view ++ rest = bytes)
    (fits : view.length ≤ maxHeaderLen) (full : rest = [] ∨ view.length = maxHeaderLen) :
    bytes.take maxHeaderLen = view := by
  subst divided
  obtain rfl | full := full
  · rw [List.append_nil]
    exact List.take_of_length_le fits
  · rw [← full]
    simp

/-- Before a final carriage return in the header space there are no headers. -/
theorem notProxyHeader_of_safe (safe : SplitSafe parser bytes) {view rest : List UInt8}
    (divided : view ++ rest = bytes) (fits : view.length ≤ maxHeaderLen)
    (long : minHeaderLen ≤ view.length) (parses : view.getLast? ≠ some carriageReturn)
    (returns : (bytes.take maxHeaderLen).getLast? = some carriageReturn) :
    parser.parse view = .notProxyHeader := by
  have enough : minHeaderLen ≤ bytes.length := by
    rw [← divided, List.length_append]
    omega
  obtain few | noReturn | ⟨few, noHeader⟩ := safe
  · omega
  · exact absurd returns noReturn
  · have part : bytes.take view.length = view := by
      rw [← divided]
      simp
    have proper : view.length < bytes.length := by
      by_contra whole
      have all : rest = [] := by
        have lengths := congrArg List.length divided
        rw [List.length_append] at lengths
        exact List.length_eq_zero_iff.1 (by omega)
      rw [take_maxHeaderLen divided fits (.inl all)] at returns
      exact parses returns
    have answer := noHeader view.length long proper
    rw [part] at answer
    exact answer parses

theorem getLast?_of_full (safe : SplitSafe parser bytes) {view rest : List UInt8}
    (divided : view ++ rest = bytes) (full : view.length = maxHeaderLen) :
    view.getLast? ≠ some carriageReturn := by
  have enough : maxHeaderLen ≤ bytes.length := by
    rw [← divided, List.length_append]
    omega
  have space : minHeaderLen < maxHeaderLen := by decide
  obtain few | noReturn | ⟨few, -⟩ := safe
  · omega
  · rwa [take_maxHeaderLen divided full.le (.inr full)] at noReturn
  · omega

/-- An attempt of the parser after a read. -/
theorem expects_tryParse (ε : Type*) (stable : parser.Stable) (safe : SplitSafe parser bytes)
    (lastErr : Option ParseError) {view : List UInt8} {after : Delivery UInt8}
    (divided : view ++ after.rest = bytes) (fits : view.length ≤ maxHeaderLen)
    (short : view.length < minHeaderLen → lastErr = .none)
    (calm : minHeaderLen ≤ bytes.length →
      (bytes.take maxHeaderLen).getLast? = some carriageReturn → lastErr = .none) :
    Expects parser bytes (tryParse ε parser lastErr view).2 after := by
  -- without the carriage return, a decision is the one on the whole header space
  have later : minHeaderLen ≤ view.length → (∀ err, parser.parse view ≠ .error err) →
      parser.parse (bytes.take maxHeaderLen) = parser.parse view := by
    intro long decided
    have part : bytes.take maxHeaderLen =
        view ++ after.rest.take (maxHeaderLen - view.length) := by
      rw [← divided, List.take_append, List.take_of_length_le fits]
    rw [part]
    exact stable _ _ long decided
  obtain ⟨skipped, same⟩ | ⟨parses, answer⟩ := tryParse_cases ε parser lastErr view
  · left
    rw [same]
    refine ⟨lastErr, view, rfl, divided, ?_, short, ?_, calm⟩
    · obtain few | returns := skipped
      · exact few.trans (by decide)
      · exact lt_of_le_of_ne fits fun full => getLast?_of_full safe divided full returns
    · intro _ long parses
      exact absurd skipped (by simp [Nat.not_lt.2 long, parses])
  · push Not at parses
    obtain ⟨long, parses⟩ := parses
    have before := notProxyHeader_of_safe safe divided fits long parses
    have enough : ¬ bytes.length < minHeaderLen := by
      rw [← divided, List.length_append]
      omega
    obtain ⟨hdr, consumed, parsed, same⟩ | ⟨parsed, same⟩ | ⟨err, parsed, answer⟩ := answer
    · right
      rw [same]
      refine ⟨trivial, ?_⟩
      have noReturn : (bytes.take maxHeaderLen).getLast? ≠ some carriageReturn := by
        intro returns
        rw [before returns] at parsed
        cases parsed
      have whole := later long (by simp [parsed])
      simp only [expected, enough, noReturn, or_self, if_false, whole, parsed]
      simp only [detection, header?, Except.mapError, buffered]
      rw [← divided, List.drop_append_of_le_length (parser.consumes parsed)]
    · right
      rw [same]
      refine ⟨trivial, ?_⟩
      have whole := later long (by simp [parsed])
      simp only [expected, whole, parsed, detection, header?, Except.mapError, buffered, divided,
        ite_self]
    · have noReturn : (bytes.take maxHeaderLen).getLast? ≠ some carriageReturn := by
        intro returns
        rw [before returns] at parsed
        cases parsed
      obtain ⟨full, same⟩ | ⟨room, same⟩ := answer
      · right
        rw [same]
        refine ⟨trivial, ?_⟩
        have whole := take_maxHeaderLen divided fits (.inr (le_antisymm fits full))
        simp only [expected, enough, noReturn, or_self, if_false]
        rw [whole, parsed]
        simp only [detection, header?, Except.mapError, buffered, divided]
      · left
        rw [same]
        refine ⟨some err, view, rfl, divided, room, fun few => ?_, fun _ _ _ => ?_, ?_⟩
        · omega
        · exact ⟨by simp, err, parsed⟩
        · exact fun _ returns => absurd returns noReturn

/-- One pass over a delivery waits, decides, or comes closer to the end of the call. -/
theorem expects_headerRound (stable : parser.Stable) (safe : SplitSafe parser bytes)
    {lastErr : Option ParseError} {hdrBuf : List UInt8} {delivery after : Delivery UInt8}
    {answer : Option (Poll (Except Empty Unit))} {next : ReadState Header ParseError}
    (undecided : Undecided parser bytes lastErr hdrBuf delivery)
    (round : headerRound parser (Delivery.reader UInt8 Empty) (.reading lastErr hdrBuf) delivery =
      (answer, next, after)) :
    Expects parser bytes next after ∧
      (answer = some .pending ∧ ¬ next.Decided ∧
          after.script.length < delivery.script.length ∨
        answer = some (.ready (.ok ())) ∧ next.Decided ∨
        answer = .none ∧ after.script.length ≤ delivery.script.length ∧
          next.passesLeft < (reading lastErr hdrBuf : ReadState Header ParseError).passesLeft) := by
  have closer := @headerRound_continues _ _ _ _ parser (Delivery.reader UInt8 Empty)
    (.reading lastErr hdrBuf) next delivery after
  have decides := @headerRound_decided _ _ _ _ parser (Delivery.reader UInt8 Empty)
    (.reading lastErr hdrBuf) next delivery after (.ok ())
  have fits := (Delivery.reader UInt8 Empty).fits delivery (maxHeaderLen - hdrBuf.length)
  have read := Delivery.pollRead_cases (ε := Empty) delivery (Nat.sub_pos_of_lt undecided.room)
  have passes := headerRound_cases parser (Delivery.reader UInt8 Empty) lastErr hdrBuf delivery
  generalize (Delivery.reader UInt8 Empty).pollRead delivery (maxHeaderLen - hdrBuf.length) =
    attempt at fits read passes
  obtain ⟨⟨filled, polled⟩, behind⟩ := attempt
  obtain ⟨rest, answers⟩ := read
  dsimp only at fits rest answers passes
  have divided : hdrBuf ++ filled ++ behind.rest = bytes := by
    rw [List.append_assoc, rest]
    exact undecided.divided
  obtain ⟨-, res, rfl, ended, same⟩ | ⟨-, rfl, same⟩ | ⟨-, rfl, more, same⟩ | ⟨full, -⟩ := passes
  · -- the end of the stream
    cases res with
    | error err => exact err.elim
    | ok =>
        rw [same] at round
        cases round
        have nothing := ended rfl
        subst nothing
        obtain ⟨absurdity, -, -⟩ | ⟨-, drained, -⟩ := answers
        · cases absurdity
        · have empty := drained rfl
          rw [List.nil_append] at rest
          rw [List.append_nil]
          exact ⟨expects_ended undecided empty (rest.trans empty),
            .inr (.inl ⟨rfl, ended_decided _ _⟩)⟩
  · -- the read has to wait
    rw [same] at round
    cases round
    obtain ⟨-, rfl, shorter⟩ | ⟨absurdity, -, -⟩ := answers
    · rw [List.nil_append] at rest
      rw [List.append_nil]
      refine ⟨.inl ⟨lastErr, hdrBuf, rfl, ?_⟩, .inl ⟨rfl, id, shorter⟩⟩
      exact ⟨rest ▸ undecided.divided, undecided.room, undecided.short,
        rest ▸ undecided.tried, undecided.calm⟩
    · cases absurdity
  · -- an attempt on the bytes of the read
    obtain ⟨absurdity, -, -⟩ | ⟨-, -, shorter⟩ := answers
    · cases absurdity
    have longer := List.length_pos_of_ne_nil more
    have room := undecided.room
    have expects := expects_tryParse Empty stable safe lastErr divided
      (by rw [List.length_append]; omega)
      (fun few => undecided.short (by rw [List.length_append] at few; omega)) undecided.calm
    have ready := tryParse_answer Empty parser lastErr (hdrBuf ++ filled)
    rw [same] at round
    obtain ⟨rfl, rfl, rfl⟩ : _ ∧ _ ∧ _ := by simpa only [Prod.mk.injEq] using round
    refine ⟨expects, .inr ?_⟩
    obtain continues | returns := ready
    · right
      refine ⟨continues, shorter, ?_⟩
      rw [continues] at same
      refine (closer same).resolve_right fun unread => ?_
      rw [unread.2] at rest
      have lengths := congrArg List.length rest
      rw [List.length_append] at lengths
      omega
    · left
      rw [returns] at same
      exact ⟨returns, decides same⟩
  · exact absurd full (Nat.not_le_of_lt undecided.room)

/-- A call over a delivery waits with everything undecided, or it ends with the expected
detection. -/
theorem expects_call (stable : parser.Stable) (safe : SplitSafe parser bytes) {passes : Nat}
    {state : ReadState Header ParseError} {delivery : Delivery UInt8}
    (expects : Expects parser bytes state delivery) (enough : state.passesLeft ≤ passes) :
    ∃ polled next after,
      headerLoop parser (Delivery.reader UInt8 Empty) passes state delivery =
        some (polled, next, after) ∧ Expects parser bytes next after ∧
      (polled = .pending ∧ after.script.length < delivery.script.length ∨
        polled = .ready (.ok ()) ∧ next.Decided) := by
  induction passes generalizing state delivery with
  | zero => cases state <;> cases enough
  | succ passes ih =>
      obtain ⟨lastErr, hdrBuf, rfl, undecided⟩ | ⟨decided, detection⟩ := expects
      · obtain ⟨⟨answer, next, after⟩, round⟩ : ∃ result, headerRound parser
            (Delivery.reader UInt8 Empty) (.reading lastErr hdrBuf) delivery = result := ⟨_, rfl⟩
        simp only [headerLoop, round]
        obtain ⟨expected, ⟨rfl, -, shorter⟩ | ⟨rfl, decided⟩ | ⟨rfl, shorter, closer⟩⟩ :=
          expects_headerRound stable safe undecided round
        · exact ⟨_, _, _, rfl, expected, .inl ⟨rfl, shorter⟩⟩
        · exact ⟨_, _, _, rfl, expected, .inr ⟨rfl, decided⟩⟩
        · obtain ⟨polled, last, behind, returned, expects, waits | ready⟩ :=
            ih expected (by omega)
          · exact ⟨polled, last, behind, returned, expects,
              .inl ⟨waits.1, waits.2.trans_le shorter⟩⟩
          · exact ⟨polled, last, behind, returned, expects, .inr ready⟩
      · simp only [headerLoop, headerRound_of_decided decided]
        exact ⟨_, _, _, rfl, .inr ⟨decided, detection⟩, .inr ⟨rfl, decided⟩⟩

end ReadState

open ReadState

variable {parser : Parser Header ParseError} {bytes : List UInt8}

/-- Awaiting `proxy_header` ends with the expected detection. -/
theorem proxyHeader_expected (stable : parser.Stable) (safe : SplitSafe parser bytes)
    (polls : Nat) (stream : Stream Header ParseError (Delivery UInt8))
    (expects : Expects parser bytes stream.readState stream.inner)
    (enough : stream.inner.script.length < polls) :
    ∃ answer after, stream.proxyHeader parser (Delivery.reader UInt8 Empty) polls =
        some (.ok answer, after) ∧ answer = after.readState.header? ∧
      after.readState.detection after.inner.rest = expected parser bytes := by
  induction polls generalizing stream with
  | zero => cases enough
  | succ polls ih =>
      obtain ⟨polled, next, after, returned, expects, ⟨rfl, shorter⟩ | ⟨rfl, decided⟩⟩ :=
        expects_call stable safe expects (le_refl _)
      · have call := headerLoop_bounded returned
        obtain ⟨answer, last, rest⟩ :=
          ih { stream with readState := next, inner := after } expects
            (by dsimp only; omega)
        refine ⟨answer, last, ?_, rest.2⟩
        simp only [Stream.proxyHeader, Stream.pollProxyHeader, call]
        exact rest.1
      · have call := headerLoop_bounded returned
        obtain ⟨lastErr, hdrBuf, rfl, -⟩ | ⟨-, detection⟩ := expects
        · exact decided.elim
        · refine ⟨next.header?, { stream with readState := next, inner := after }, ?_, rfl,
            detection⟩
          simp only [Stream.proxyHeader, Stream.pollProxyHeader, call]

theorem detect_expected (stable : parser.Stable) (safe : SplitSafe parser bytes)
    (script : List (Option Nat)) :
    detect parser ⟨bytes, script⟩ = some (expected parser bytes) := by
  obtain ⟨answer, after, awaited, rfl, detection⟩ := proxyHeader_expected stable safe
    (script.length + 1) (Stream.incoming ⟨bytes, script⟩) (expects_incoming ⟨bytes, script⟩)
    (Nat.lt_succ_self _)
  simp only [detect, awaited]
  exact congrArg some detection

theorem detect_of_loop {passes : Nat} {delivery after : Delivery UInt8}
    {next : ReadState Header ParseError}
    (returned : headerLoop parser (Delivery.reader UInt8 Empty) passes .new delivery =
      some (.ready (.ok ()), next, after)) :
    detect parser delivery = some (next.detection after.rest) := by
  have call := headerLoop_bounded returned
  simp only [detect, Stream.proxyHeader, Stream.pollProxyHeader, Stream.incoming, call]
  rfl

theorem tryParse_of_return {lastErr : Option ParseError} {view : List UInt8}
    (returns : view.getLast? = some carriageReturn) :
    tryParse Empty parser lastErr view = (.none, .reading lastErr view) := by
  simp only [tryParse, returns, or_true, if_true]

theorem headerRound_of_read (parser : Parser Header ParseError) (lastErr : Option ParseError)
    (hdrBuf : List UInt8) {filled : List UInt8} {delivery after : Delivery UInt8}
    (room : hdrBuf.length < maxHeaderLen) (more : filled ≠ [])
    (read : (Delivery.reader UInt8 Empty).pollRead delivery (maxHeaderLen - hdrBuf.length) =
      (⟨filled, .ready (.ok ())⟩, after)) :
    headerRound parser (Delivery.reader UInt8 Empty) (.reading lastErr hdrBuf) delivery =
      ((tryParse Empty parser lastErr (hdrBuf ++ filled)).1,
        (tryParse Empty parser lastErr (hdrBuf ++ filled)).2, after) := by
  simp only [headerRound, room, if_true, read, more, if_false]

theorem headerRound_of_drained {lastErr : Option ParseError} {hdrBuf : List UInt8}
    (room : hdrBuf.length < maxHeaderLen) :
    headerRound parser (Delivery.reader UInt8 Empty) (.reading lastErr hdrBuf) ⟨[], []⟩ =
      (some (.ready (.ok ())), ended lastErr hdrBuf, ⟨[], []⟩) := by
  simp [headerRound, room, Delivery.reader, Delivery.pollRead]

theorem pollRead_all (rest : List UInt8) (room : Nat) :
    (Delivery.reader UInt8 Empty).pollRead ⟨rest, []⟩ room =
      (⟨rest.take room, .ready (.ok ())⟩, ⟨rest.drop room, []⟩) := rfl

/-- A full header space that ends in a carriage return is never left. -/
theorem detect_of_full (full : maxHeaderLen ≤ bytes.length)
    (returns : (bytes.take maxHeaderLen).getLast? = some carriageReturn) :
    detect parser ⟨bytes, []⟩ = .none := by
  have spins : ∀ passes source,
      headerLoop parser (Delivery.reader UInt8 Empty) passes
        (.reading .none (bytes.take maxHeaderLen)) source = .none := by
    intro passes source
    induction passes with
    | zero => rfl
    | succ passes ih =>
        have space : ¬ (bytes.take maxHeaderLen).length < maxHeaderLen := by simp [full]
        have round : headerRound parser (Delivery.reader UInt8 Empty)
            (.reading .none (bytes.take maxHeaderLen)) source =
              (.none, .reading .none (bytes.take maxHeaderLen), source) := by
          simp only [headerRound, space, if_false, tryParse_of_return returns]
        simp only [headerLoop, round]
        exact ih
  have more : bytes.take maxHeaderLen ≠ [] := by
    intro empty
    simp [empty] at returns
  have first :=
    headerRound_of_read parser .none [] (by decide) more (pollRead_all bytes maxHeaderLen)
  rw [List.nil_append, tryParse_of_return returns] at first
  have call : pollReadHeaderOnce parser (Delivery.reader UInt8 Empty) .new ⟨bytes, []⟩ =
      .none := by
    unfold pollReadHeaderOnce ReadState.new
    rw [headerLoop, first]
    exact spins (maxHeaderLen + 1) _
  simp only [detect, Stream.proxyHeader, Stream.pollProxyHeader, Stream.incoming, call]

section FinalReturn

variable (room : bytes.length < maxHeaderLen) (returns : bytes.getLast? = some carriageReturn)

include room returns

theorem detect_atOnce : detect parser ⟨bytes, []⟩ = some ⟨.ok .none, bytes⟩ := by
  have more : bytes ≠ [] := by
    intro empty
    simp [empty] at returns
  have read := pollRead_all bytes maxHeaderLen
  rw [List.take_of_length_le room.le, List.drop_of_length_le room.le] at read
  have first := headerRound_of_read parser .none [] (by decide) more read
  rw [List.nil_append, tryParse_of_return returns] at first
  have loop : headerLoop parser (Delivery.reader UInt8 Empty) 2 .new ⟨bytes, []⟩ =
      some (.ready (.ok ()), ended .none bytes, ⟨[], []⟩) := by
    simp only [headerLoop, ReadState.new, first, headerRound_of_drained room]
  rw [detect_of_loop loop]
  simp [detection, ended, header?, buffered, Except.mapError]

/-- Read in two parts, the first part is parsed, and no answer but `NotProxyHeader` leads
to the detection of `detect_atOnce`. -/
theorem notProxyHeader_of_split {length : Nat} (long : minHeaderLen ≤ length)
    (proper : length < bytes.length)
    (parses : (bytes.take length).getLast? ≠ some carriageReturn)
    (detected : (detect parser ⟨bytes, [some (length - 1)]⟩).map Detection.result =
      some (.ok .none)) :
    parser.parse (bytes.take length) = .notProxyHeader := by
  have size : (bytes.take length).length = length := by
    rw [List.length_take]
    omega
  have positive : 0 < minHeaderLen := by decide
  have read : (Delivery.reader UInt8 Empty).pollRead ⟨bytes, [some (length - 1)]⟩ maxHeaderLen =
      (⟨bytes.take length, .ready (.ok ())⟩, ⟨bytes.drop length, []⟩) := by
    have amount : min (length - 1 + 1) maxHeaderLen = length := by omega
    simp only [Delivery.reader, Delivery.pollRead, amount]
  have more : bytes.take length ≠ [] := List.ne_nil_of_length_pos (by omega)
  have first := headerRound_of_read parser .none [] (by decide) more read
  rw [List.nil_append] at first
  obtain ⟨skipped, -⟩ | ⟨-, ⟨hdr, consumed, parsed, same⟩ | ⟨parsed, -⟩ | ⟨err, parsed, answer⟩⟩ :=
    tryParse_cases Empty parser .none (bytes.take length)
  · exact absurd skipped (by simp only [size, parses, or_false]; omega)
  · -- a header is final
    rw [same] at first
    have loop : headerLoop parser (Delivery.reader UInt8 Empty) 1 .new
        ⟨bytes, [some (length - 1)]⟩ =
          some (.ready (.ok ()), .header (some hdr) ((bytes.take length).drop consumed),
            ⟨bytes.drop length, []⟩) := by
      simp only [headerLoop, ReadState.new, first]
    rw [detect_of_loop loop] at detected
    simp [detection, header?, Except.mapError] at detected
  · exact parsed
  · -- an error is remembered until the stream ends
    have same := (answer.resolve_left (by omega)).2
    rw [same] at first
    have left : (bytes.drop length).length ≤ maxHeaderLen - (bytes.take length).length := by
      rw [List.length_drop, size]
      omega
    have rest := pollRead_all (bytes.drop length) (maxHeaderLen - (bytes.take length).length)
    rw [List.take_of_length_le left, List.drop_of_length_le left] at rest
    have remains : bytes.drop length ≠ [] :=
      List.ne_nil_of_length_pos (by rw [List.length_drop]; omega)
    have second := headerRound_of_read parser (some err) _ (by omega) remains rest
    rw [List.take_append_drop, tryParse_of_return returns] at second
    have loop : headerLoop parser (Delivery.reader UInt8 Empty) 3 .new
        ⟨bytes, [some (length - 1)]⟩ =
          some (.ready (.ok ()), ended (some err) bytes, ⟨[], []⟩) := by
      simp only [headerLoop, ReadState.new, first, second, headerRound_of_drained room]
    rw [detect_of_loop loop] at detected
    simp [detection, ended, header?, Except.mapError] at detected

end FinalReturn

/-- Detection is the same for all deliveries of the bytes exactly when they are
`SplitSafe`. -/
theorem detect_eq_iff (parser : Parser Header ParseError) (stable : parser.Stable)
    (bytes : List UInt8) :
    (∀ first second : List (Option Nat), ∃ detection,
      detect parser ⟨bytes, first⟩ = some detection ∧
        detect parser ⟨bytes, second⟩ = some detection) ↔ SplitSafe parser bytes := by
  constructor
  · intro same
    by_contra differs
    unfold SplitSafe at differs
    push Not at differs
    obtain ⟨long, returns, heads⟩ := differs
    obtain room | full := Nat.lt_or_ge bytes.length maxHeaderLen
    · rw [List.take_of_length_le room.le] at returns
      obtain ⟨length, enough, proper, parses, parsed⟩ := heads room
      obtain ⟨detection, once, split⟩ := same [] [some (length - 1)]
      rw [detect_atOnce room returns] at once
      cases once
      exact parsed (notProxyHeader_of_split room returns enough proper parses (by rw [split]; rfl))
    · obtain ⟨detection, detected, -⟩ := same [] []
      rw [detect_of_full full returns] at detected
      cases detected
  · intro safe first second
    exact ⟨_, detect_expected stable safe first, detect_expected stable safe second⟩

/-- Bytes that are no header are detected as such in two reads and in one. -/
theorem detect_eq_iff_plain :
    ∃ detection, detect Parser.version1 ⟨List.replicate 16 72, []⟩ = some detection ∧
      detect Parser.version1 ⟨List.replicate 16 72, [some 6, none]⟩ = some detection :=
  (detect_eq_iff Parser.version1 Parser.version1_stable (List.replicate 16 72)).2
    (.inr (.inl (by decide))) [] [some 6, none]

/-- `PROXY TCP4 1.2.3` and a carriage return: no header when the bytes come at once, and an
error when the carriage return comes alone. -/
theorem detect_cutBeforeReturn :
    let bytes : List UInt8 := [80, 82, 79, 88, 89, 32, 84, 67, 80, 52, 32, 49, 46, 50, 46, 51, 13]
    Parser.version1.Stable ∧
      detect Parser.version1 ⟨bytes, []⟩ = some ⟨.ok none, bytes⟩ ∧
      detect Parser.version1 ⟨bytes, [some 15]⟩ = some ⟨.error (), bytes⟩ ∧
      ¬ ∀ first second : List (Option Nat), ∃ detection,
        detect Parser.version1 ⟨bytes, first⟩ = some detection ∧
          detect Parser.version1 ⟨bytes, second⟩ = some detection := by
  intro bytes
  have atOnce : detect Parser.version1 ⟨bytes, []⟩ = some ⟨.ok none, bytes⟩ := by decide +kernel
  have cut : detect Parser.version1 ⟨bytes, [some 15]⟩ = some ⟨.error (), bytes⟩ := by
    decide +kernel
  refine ⟨Parser.version1_stable, atOnce, cut, fun same => ?_⟩
  obtain ⟨detection, first, second⟩ := same [] [some 15]
  rw [atOnce] at first
  rw [cut] at second
  cases first
  cases second

end ProxyProto

end NgrokRust
