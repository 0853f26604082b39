import NgrokRust.ProxyProtoStream

/-!
# Where the header loop ends

A pass through the loop of `poll_read_header_once` that continues is meant to have read
something or to have found an end state.  A view that ends in a carriage return is left
alone before the length of the buffer is looked at, so that a full buffer of this kind
brings the loop back to where it was.
-/

namespace NgrokRust

namespace ProxyProto

variable {Header ParseError ε σ : Type*}

def LeavesOpen (parser : Parser Header ParseError) (view : List UInt8) : Prop :=
  view.length < minHeaderLen ∨ view.getLast? = some carriageReturn ∨
    (view.length < maxHeaderLen ∧ ∃ err, parser.parse view = .error err)

/-- The reads fill the buffer up to a last byte that is a carriage return, and no attempt
on the way finds a header or finds that there is none. -/
inductive FillsUp (parser : Parser Header ParseError) (reader : PolledReader σ UInt8 ε) :
    List UInt8 → σ → Prop where
  | full {hdrBuf : List UInt8} {source : σ} (full : maxHeaderLen ≤ hdrBuf.length)
      (last : hdrBuf.getLast? = some carriageReturn) : FillsUp parser reader hdrBuf source
  | more {hdrBuf filled : List UInt8} {source after : σ} (room : hdrBuf.length < maxHeaderLen)
      (read : reader.pollRead source (maxHeaderLen - hdrBuf.length) =
        (⟨filled, .ready (.ok ())⟩, after))
      (some : filled ≠ []) (leavesOpen : LeavesOpen parser (hdrBuf ++ filled))
      (rest : FillsUp parser reader (hdrBuf ++ filled) after) : FillsUp parser reader hdrBuf source

namespace ReadState

/-- The call is still reading, and its reads fill the buffer up to a carriage return. -/
def FillsUp (parser : Parser Header ParseError) (reader : PolledReader σ UInt8 ε) :
    ReadState Header ParseError → σ → Prop
  | .reading _ hdrBuf, source => ProxyProto.FillsUp parser reader hdrBuf source
  | _, _ => False

def Continues (parser : Parser Header ParseError) (reader : PolledReader σ UInt8 ε)
    (before after : ReadState Header ParseError × σ) : Prop :=
  headerRound parser reader before.1 before.2 = (.none, after)

abbrev Passes (parser : Parser Header ParseError) (reader : PolledReader σ UInt8 ε) :
    ReadState Header ParseError × σ → ReadState Header ParseError × σ → Prop :=
  Relation.ReflTransGen (Continues parser reader)

/-- The call comes to an end, every pass that continues has buffered something or found an
end state, and a full buffer without a header is the end of it. -/
structure Terminates (parser : Parser Header ParseError) (reader : PolledReader σ UInt8 ε)
    (state : ReadState Header ParseError) (source : σ) : Prop where
  returns : ∃ passes outcome, headerLoop parser reader passes state source = some outcome
  progress : ∀ reached next, Passes parser reader (state, source) reached →
    Continues parser reader reached next →
      reached.1.buffered.length < next.1.buffered.length ∨ next.1.Decided
  ends : ∀ lastErr hdrBuf reached,
    Passes parser reader (state, source) (.reading lastErr hdrBuf, reached) →
      maxHeaderLen ≤ hdrBuf.length →
        ∃ passes polled next after,
          headerLoop parser reader passes state source = some (polled, next, after) ∧
            ((∃ err remainder, next = .error err remainder) ∨
              ∃ hdr remainder, next = .header hdr remainder)

variable {parser : Parser Header ParseError} {reader : PolledReader σ UInt8 ε}

/-- An attempt that continues has left everything open, or the view is full and was
rejected. -/
theorem tryParse_continues {lastErr : Option ParseError} {view : List UInt8}
    (continues : (tryParse ε parser lastErr view).1 = .none) :
    (LeavesOpen parser view ∧ ∃ err, (tryParse ε parser lastErr view).2 = .reading err view ∧
        (maxHeaderLen ≤ view.length → err = lastErr)) ∨
      (¬ LeavesOpen parser view ∧ maxHeaderLen ≤ view.length ∧
        ∃ err, (tryParse ε parser lastErr view).2 = .error err view) := by
  obtain ⟨skipped, same⟩ | ⟨tried, ⟨_, _, -, same⟩ | ⟨-, same⟩ |
    ⟨err, rejected, ⟨full, same⟩ | ⟨short, same⟩⟩⟩ := tryParse_cases ε parser lastErr view
  · rw [same]
    refine .inl ⟨?_, lastErr, rfl, fun _ => rfl⟩
    obtain short | last := skipped
    · exact .inl short
    · exact .inr (.inl last)
  · rw [same] at continues
    cases continues
  · rw [same] at continues
    cases continues
  · rw [same]
    refine .inr ⟨?_, full, err, rfl⟩
    rintro (short | last | ⟨room, -⟩)
    · exact tried (.inl short)
    · exact tried (.inr last)
    · exact Nat.not_le_of_lt room full
  · rw [same]
    exact .inl ⟨.inr (.inr ⟨short, err, rejected⟩), some err, rfl,
      fun full => absurd full (Nat.not_le_of_lt short)⟩

theorem tryParse_of_leavesOpen (lastErr : Option ParseError) {view : List UInt8}
    (leavesOpen : LeavesOpen parser view) :
    ∃ err, tryParse ε parser lastErr view = (.none, .reading err view) := by
  by_cases skipped : view.length < minHeaderLen ∨ view.getLast? = some carriageReturn
  · exact ⟨lastErr, by simp [tryParse, skipped]⟩
  · obtain short | last | ⟨short, err, rejected⟩ := leavesOpen
    · exact absurd (.inl short) skipped
    · exact absurd (.inr last) skipped
    · exact ⟨some err, by simp [tryParse, skipped, rejected, Nat.not_le_of_lt short]⟩

/-- All passes that continue: a read that leaves everything open or brings the parser to
reject a full buffer, and a pass over a full buffer. -/
theorem continues_cases {lastErr : Option ParseError} {hdrBuf : List UInt8} {source : σ}
    {next : ReadState Header ParseError × σ}
    (continues : Continues parser reader (.reading lastErr hdrBuf, source) next) :
    (∃ filled after, hdrBuf.length < maxHeaderLen ∧
        reader.pollRead source (maxHeaderLen - hdrBuf.length) =
          (⟨filled, .ready (.ok ())⟩, after) ∧ filled ≠ [] ∧
        ((∃ err, next = (.reading err (hdrBuf ++ filled), after) ∧
            LeavesOpen parser (hdrBuf ++ filled)) ∨
          ∃ err, next = (.error err (hdrBuf ++ filled), after) ∧
            ¬ LeavesOpen parser (hdrBuf ++ filled))) ∨
      (maxHeaderLen ≤ hdrBuf.length ∧
        (LeavesOpen parser hdrBuf ∧ next = (.reading lastErr hdrBuf, source) ∨
          ∃ err, next = (.error err hdrBuf, source) ∧ ¬ LeavesOpen parser hdrBuf)) := by
  obtain ⟨-, _, -, -, ended⟩ | ⟨-, -, waits⟩ | ⟨room, ready, more, parses⟩ | ⟨full, parses⟩ :=
    headerRound_cases parser reader lastErr hdrBuf source
  · rw [Continues, ended] at continues
    cases continues
  · rw [Continues, waits] at continues
    cases continues
  · rw [Continues, parses] at continues
    obtain ⟨goesOn, rfl⟩ := Prod.mk.inj continues
    refine .inl ⟨_, _, room, Prod.ext ?_ rfl, more, ?_⟩
    · cases attempt : (reader.pollRead source (maxHeaderLen - hdrBuf.length)).1
      rw [attempt] at ready
      cases ready
      rfl
    · obtain ⟨leavesOpen, err, reads, -⟩ | ⟨rejected, -, err, fails⟩ := tryParse_continues goesOn
      · exact .inl ⟨err, by rw [reads], leavesOpen⟩
      · exact .inr ⟨err, by rw [fails], rejected⟩
  · rw [Continues, parses] at continues
    obtain ⟨goesOn, rfl⟩ := Prod.mk.inj continues
    refine .inr ⟨full, ?_⟩
    obtain ⟨leavesOpen, err, reads, same⟩ | ⟨rejected, -, err, fails⟩ :=
      tryParse_continues goesOn
    · exact .inl ⟨leavesOpen, by rw [reads, same full]⟩
    · exact .inr ⟨err, by rw [fails], rejected⟩

theorem continues_of_read {lastErr : Option ParseError} {hdrBuf filled : List UInt8}
    {source after : σ} (room : hdrBuf.length < maxHeaderLen)
    (read : reader.pollRead source (maxHeaderLen - hdrBuf.length) =
      (⟨filled, .ready (.ok ())⟩, after))
    (more : filled ≠ []) (leavesOpen : LeavesOpen parser (hdrBuf ++ filled)) :
    ∃ err, Continues parser reader (.reading lastErr hdrBuf, source)
      (.reading err (hdrBuf ++ filled), after) := by
  obtain ⟨err, parses⟩ := tryParse_of_leavesOpen (ε := ε) lastErr leavesOpen
  exact ⟨err, by simp [Continues, headerRound, room, read, more, parses]⟩

theorem last_of_leavesOpen {hdrBuf : List UInt8} (full : maxHeaderLen ≤ hdrBuf.length)
    (leavesOpen : LeavesOpen parser hdrBuf) : hdrBuf.getLast? = some carriageReturn := by
  have long : minHeaderLen ≤ hdrBuf.length := le_trans (by decide) full
  obtain short | last | ⟨room, -⟩ := leavesOpen
  · exact absurd long (Nat.not_le_of_lt short)
  · exact last
  · exact absurd full (Nat.not_le_of_lt room)

theorem continues_of_full {lastErr : Option ParseError} {hdrBuf : List UInt8} {source : σ}
    (full : maxHeaderLen ≤ hdrBuf.length) (last : hdrBuf.getLast? = some carriageReturn) :
    Continues parser reader (.reading lastErr hdrBuf, source)
      (.reading lastErr hdrBuf, source) := by
  simp [Continues, headerRound, Nat.not_lt_of_le full, tryParse, last]

/-- A pass neither brings a call onto this way nor off it. -/
theorem fillsUp_of_continues {state : ReadState Header ParseError} {source : σ}
    {next : ReadState Header ParseError × σ}
    (continues : Continues parser reader (state, source) next) :
    next.1.FillsUp parser reader next.2 ↔ state.FillsUp parser reader source := by
  cases state with
  | reading lastErr hdrBuf =>
      obtain ⟨filled, after, room, read, more, ⟨err, rfl, leavesOpen⟩ | ⟨err, rfl, rejected⟩⟩ |
        ⟨full, ⟨leavesOpen, rfl⟩ | ⟨err, rfl, rejected⟩⟩ := continues_cases continues
      · constructor
        · exact fun fillsUp => .more room read more leavesOpen fillsUp
        · intro fillsUp
          cases fillsUp with
          | full full => exact absurd full (Nat.not_le_of_lt room)
          | more _ same _ _ rest =>
              rw [read] at same
              cases same
              exact rest
      · constructor
        · exact False.elim
        · intro fillsUp
          cases fillsUp with
          | full full => exact absurd full (Nat.not_le_of_lt room)
          | more _ same _ leavesOpen =>
              rw [read] at same
              cases same
              exact rejected leavesOpen
      · exact Iff.rfl
      · constructor
        · exact False.elim
        · intro fillsUp
          cases fillsUp with
          | full _ last => exact rejected (.inr (.inl last))
          | more room => exact absurd full (Nat.not_le_of_lt room)
  | error => cases continues
  | header => cases continues
  | none => cases continues

theorem fillsUp_of_passes {first last : ReadState Header ParseError × σ}
    (passes : Passes parser reader first last) :
    last.1.FillsUp parser reader last.2 ↔ first.1.FillsUp parser reader first.2 := by
  induction passes with
  | refl => exact Iff.rfl
  | tail _ continues ih => exact (fillsUp_of_continues continues).trans ih

theorem continues_of_fillsUp {state : ReadState Header ParseError} {source : σ}
    (fillsUp : state.FillsUp parser reader source) :
    ∃ next, Continues parser reader (state, source) next := by
  cases state with
  | reading lastErr hdrBuf =>
      cases fillsUp with
      | full full last => exact ⟨_, continues_of_full full last⟩
      | more room read more leavesOpen =>
          obtain ⟨err, continues⟩ := continues_of_read room read more leavesOpen
          exact ⟨_, continues⟩
  | error => exact fillsUp.elim
  | header => exact fillsUp.elim
  | none => exact fillsUp.elim

theorem headerLoop_of_continues {state : ReadState Header ParseError} {source : σ}
    {next : ReadState Header ParseError × σ}
    (continues : Continues parser reader (state, source) next) (passes : Nat) :
    headerLoop parser reader (passes + 1) state source =
      headerLoop parser reader passes next.1 next.2 := by
  have round : headerRound parser reader state source = (.none, next) := continues
  simp only [headerLoop, round]

theorem headerLoop_of_returns {state next : ReadState Header ParseError} {source after : σ}
    {polled : Poll (Except ε Unit)}
    (round : headerRound parser reader state source = (some polled, next, after)) :
    headerLoop parser reader 1 state source = some (polled, next, after) := by
  simp only [headerLoop, round]

theorem headerLoop_of_fillsUp {state : ReadState Header ParseError} {source : σ}
    (fillsUp : state.FillsUp parser reader source) (passes : Nat) :
    headerLoop parser reader passes state source = .none := by
  induction passes generalizing state source with
  | zero => rfl
  | succ passes ih =>
      obtain ⟨next, continues⟩ := continues_of_fillsUp fillsUp
      rw [headerLoop_of_continues continues]
      exact ih ((fillsUp_of_continues continues).2 fillsUp)

/-- Every other pass that continues has read something or found an end state. -/
theorem progress_of_not_fillsUp {state : ReadState Header ParseError} {source : σ}
    {next : ReadState Header ParseError × σ} (stops : ¬ state.FillsUp parser reader source)
    (continues : Continues parser reader (state, source) next) :
    state.buffered.length < next.1.buffered.length ∨ next.1.Decided := by
  cases state with
  | reading lastErr hdrBuf =>
      obtain ⟨filled, after, -, -, more, ⟨err, rfl, -⟩ | ⟨err, rfl, -⟩⟩ |
        ⟨full, ⟨leavesOpen, -⟩ | ⟨err, rfl, -⟩⟩ := continues_cases continues
      · left
        have longer := List.length_pos_of_ne_nil more
        simp only [buffered, List.length_append]
        omega
      · exact .inr trivial
      · exact absurd (.full full (last_of_leavesOpen full leavesOpen)) stops
      · exact .inr trivial
  | error => cases continues
  | header => cases continues
  | none => cases continues

/-- Every other call comes to an end. -/
theorem returns_of_not_fillsUp {state : ReadState Header ParseError} {source : σ}
    (stops : ¬ state.FillsUp parser reader source) :
    ∃ passes outcome, headerLoop parser reader passes state source = some outcome := by
  induction left : state.passesLeft using Nat.strongRecOn generalizing state source with
  | ind left ih =>
      cases round : headerRound parser reader state source with
      | mk answer next =>
          cases answer with
          | some polled => exact ⟨1, (polled, next), headerLoop_of_returns round⟩
          | none =>
              have continues : Continues parser reader (state, source) next := round
              have still : ¬ next.1.FillsUp parser reader next.2 :=
                fun fillsUp => stops ((fillsUp_of_continues continues).1 fillsUp)
              obtain closer | ⟨same, -⟩ := headerRound_continues round
              · obtain ⟨passes, outcome, returned⟩ := ih _ (left ▸ closer) still rfl
                exact ⟨passes + 1, outcome, by rw [headerLoop_of_continues continues, returned]⟩
              · obtain longer | decided := progress_of_not_fillsUp stops continues
                · rw [same] at longer
                  exact absurd longer (Nat.lt_irrefl _)
                · rw [same] at decided
                  rw [Continues, headerRound_of_decided decided] at continues
                  cases continues

theorem headerLoop_of_passes {first last : ReadState Header ParseError × σ}
    (walked : Passes parser reader first last) {passes : Nat}
    {outcome : Poll (Except ε Unit) × ReadState Header ParseError × σ}
    (returned : headerLoop parser reader passes last.1 last.2 = some outcome) :
    ∃ passes, headerLoop parser reader passes first.1 first.2 = some outcome := by
  induction walked using Relation.ReflTransGen.head_induction_on with
  | refl => exact ⟨passes, returned⟩
  | head continues _ ih =>
      obtain ⟨passes, returned⟩ := ih
      exact ⟨passes + 1, by rw [headerLoop_of_continues continues, returned]⟩

/-- A pass over a full buffer that does not end in a carriage return is the last one or
the last but one. -/
theorem ends_of_full (parser : Parser Header ParseError) (reader : PolledReader σ UInt8 ε)
    (lastErr : Option ParseError) (source : σ) {hdrBuf : List UInt8}
    (full : maxHeaderLen ≤ hdrBuf.length) (last : hdrBuf.getLast? ≠ some carriageReturn) :
    ∃ passes polled next after,
      headerLoop parser reader passes (.reading lastErr hdrBuf) source =
          some (polled, next, after) ∧
        ((∃ err remainder, next = .error err remainder) ∨
          ∃ hdr remainder, next = .header hdr remainder) := by
  have long : ¬ hdrBuf.length < minHeaderLen := Nat.not_lt_of_le (le_trans (by decide) full)
  have round : ∀ answer, tryParse ε parser lastErr hdrBuf = answer →
      headerRound parser reader (.reading lastErr hdrBuf) source = (answer.1, answer.2, source) := by
    rintro answer rfl
    simp [headerRound, Nat.not_lt_of_le full]
  obtain ⟨short | last', -⟩ | ⟨-, ⟨hdr, consumed, -, same⟩ | ⟨-, same⟩ |
    ⟨err, -, ⟨-, same⟩ | ⟨room, -⟩⟩⟩ := tryParse_cases ε parser lastErr hdrBuf
  · exact absurd short long
  · exact absurd last' last
  · exact ⟨1, _, _, _, headerLoop_of_returns (round _ same), .inr ⟨_, _, rfl⟩⟩
  · exact ⟨1, _, _, _, headerLoop_of_returns (round _ same), .inr ⟨_, _, rfl⟩⟩
  · refine ⟨2, .ready (.ok ()), .error err hdrBuf, source, ?_, .inl ⟨_, _, rfl⟩⟩
    rw [headerLoop_of_continues (round _ same)]
    exact headerLoop_of_returns (headerRound_of_decided trivial)
  · exact absurd full (Nat.not_le_of_lt room)

/-- Reading a header terminates for every parser, reader and state, except where the reads
fill the buffer up to a carriage return that nothing was found before. -/
theorem terminates_iff (parser : Parser Header ParseError) (reader : PolledReader σ UInt8 ε)
    (state : ReadState Header ParseError) (source : σ) :
    Terminates parser reader state source ↔ ¬ state.FillsUp parser reader source := by
  constructor
  · rintro ⟨⟨passes, outcome, returned⟩, -, -⟩ fillsUp
    rw [headerLoop_of_fillsUp fillsUp] at returned
    cases returned
  · intro stops
    have still : ∀ {reached}, Passes parser reader (state, source) reached →
        ¬ reached.1.FillsUp parser reader reached.2 :=
      fun passes fillsUp => stops ((fillsUp_of_passes passes).1 fillsUp)
    refine ⟨returns_of_not_fillsUp stops, ?_, ?_⟩
    · intro reached next passes continues
      exact progress_of_not_fillsUp (still passes) continues
    · intro lastErr hdrBuf reached passes full
      have last : hdrBuf.getLast? ≠ some carriageReturn :=
        fun last => still passes (.full full last)
      obtain ⟨_, polled, next, after, returned, found⟩ :=
        ends_of_full parser reader lastErr reached full last
      obtain ⟨passes, returned⟩ := headerLoop_of_passes passes returned
      exact ⟨passes, polled, next, after, returned, found⟩

theorem fillsUp_delivery (parser : Parser Header ParseError) (ε : Type*) {bytes : List UInt8}
    (full : bytes.length = maxHeaderLen) (last : bytes.getLast? = some carriageReturn) :
    ReadState.new.FillsUp parser (Delivery.reader UInt8 ε) ⟨bytes, []⟩ := by
  have all : bytes.take maxHeaderLen = bytes := List.take_of_length_le full.le
  have read : (Delivery.reader UInt8 ε).pollRead ⟨bytes, []⟩ (maxHeaderLen - 0) =
      (⟨bytes, .ready (.ok ())⟩, ⟨bytes.drop maxHeaderLen, []⟩) := by
    simp [Delivery.reader, Delivery.pollRead, all]
  refine .more (by decide) read ?_ (.inr (.inl last)) (.full full.ge last)
  rintro rfl
  cases full

/-- A peer that sends nothing but carriage returns keeps the task busy forever. -/
theorem not_terminates_carriageReturns :
    ¬ Terminates Parser.version1 (Delivery.reader UInt8 Empty) .new
      ⟨List.replicate maxHeaderLen carriageReturn, []⟩ := by
  rintro ⟨⟨passes, outcome, returned⟩, -, -⟩
  have fillsUp : ReadState.new.FillsUp Parser.version1 (Delivery.reader UInt8 Empty)
      ⟨List.replicate maxHeaderLen carriageReturn, []⟩ := by
    refine fillsUp_delivery _ _ List.length_replicate ?_
    rw [List.getLast?_replicate, if_neg (by decide)]
  rw [headerLoop_of_fillsUp fillsUp] at returned
  cases returned

end ReadState

end ProxyProto

end NgrokRust
