import NgrokRust.MuxadoStreamEntry
import NgrokRust.MuxadoStreamHistory

/-!
# Half-closed streams on the wire

The frame that ends the writing side of a stream comes from `poll_shutdown`, or from the
manager when it finds the stream dropped.  The handle's `needs_fin` decides between the
two: while the stream is registered it is set as long as no final frame has been yielded,
unless a reset has cleared it.  So there is never a second final frame, and without a
reset there is one by the time the entry is removed.
-/

namespace NgrokRust

namespace Muxado

open LabelledRuns StreamEnd

def finals (frames : List Frame) : Nat := frames.countP Frame.isFin

@[simp] theorem finals_nil : finals [] = 0 := rfl

@[simp] theorem finals_cons (frame : Frame) (frames : List Frame) :
    finals (frame :: frames) = finals frames + frame.isFin.toNat := by
  cases isFin : frame.isFin <;> simp [finals, isFin]

@[simp] theorem finals_append (first second : List Frame) :
    finals (first ++ second) = finals first + finals second := by
  simp [finals]

theorem finals_eq_zero {frames : List Frame} (absent : ¬ ∃ frame ∈ frames, frame.isFin = true) :
    finals frames = 0 := by
  apply List.countP_eq_zero.mpr
  exact fun frame member isFin => absent ⟨frame, member, isFin⟩

theorem FinLast.last {frames : List Frame} (finLast : FinLast frames) (once : finals frames ≤ 1) :
    frames.Pairwise fun earlier later => earlier.isFin = true → later.isData = false := by
  induction frames with
  | nil => exact .nil
  | cons frame frames ih =>
      obtain ⟨after, rest⟩ := List.pairwise_cons.mp finLast
      rw [finals_cons] at once
      refine List.pairwise_cons.mpr ⟨fun later member isFin => ?_, ih rest (by omega)⟩
      rw [isFin, Bool.toNat_true] at once
      by_contra isData
      have laterFin := (after later member isFin (by simpa using isData)).1
      have counted : 0 < finals frames := List.countP_pos_iff.mpr ⟨later, member, laterFin⟩
      omega

/-- The application ends the writing side of a stream at most once. -/
theorem finals_change {before after : StreamEnd} (change : Change .application before after)
    (law : WriteHistory before) (once : finals before.outgoing ≤ 1) :
    finals after.outgoing ≤ 1 := by
  cases change with
  | takeAcked by' held pos le code isOpen =>
      have credit : (Frame.ofBody (.wndInc by')).isFin = false := rfl
      simpa [StreamEnd.outgoing, credit, Nat.add_assoc] using once
  | write buf count held writable code isOpen credit le fits =>
      have data (bytes : List UInt8) (first : Bool) :
          (if first = true then (Frame.ofBody (.data bytes)).syn
            else Frame.ofBody (.data bytes)).isFin = false := by
        cases first <;> rfl
      simpa [StreamEnd.outgoing, data, Nat.add_assoc] using once
  | shutdown held writable code isOpen =>
      -- a final frame before would have closed the writing side
      have none : finals before.outgoing = 0 := by
        apply finals_eq_zero
        intro ended
        rcases law.finCloses ended with closed | closed
        · exact closed writable
        · rw [isOpen] at closed
          cases closed
      have final : Stream.finFrame.isFin = true := rfl
      rw [StreamEnd.outgoing, finals_append] at none ⊢
      simp only [Channel.push_queue, finals_append, finals_cons, finals_nil, final, Bool.toNat_true]
      omega
  | rewake _ _ _ _ => exact once
  | ingest _ _ _ _ _ => exact once
  | seeClosed _ _ _ => exact once
  | takeUnacked _ _ _ => exact once
  | disconnect _ _ => exact once
  | failWrite _ _ _ => exact once
  | drop _ => exact once

theorem finals_changes {before after : StreamEnd} (changes : Changes .application before after)
    (law : WriteHistory before) (once : finals before.outgoing ≤ 1) :
    finals after.outgoing ≤ 1 := by
  have both := @Changes.keep .application (fun target =>
    WriteHistory target ∧ finals target.outgoing ≤ 1)
    (fun change both => ⟨both.1.change change, finals_change change both.1 both.2⟩)
    before after changes ⟨law, once⟩
  exact both.2

namespace Hub

/-- A frame of the remote leaves the stream's own frames alone and never makes its handle
need a final one. -/
theorem SendSpec.outgoing {sending : Sending} {handle handle' : StreamHandle}
    {target target' : StreamEnd} {polled : Poll (Except Error Unit)} {sending' : Option Sending}
    (spec : SendSpec sending handle target polled handle' target' sending') :
    target'.sent = target.sent ∧ target'.outgoing = target.outgoing ∧
      (handle'.needsFin = true → handle.needsFin = true) := by
  cases spec with
  | reset _ _ => exact ⟨rfl, rfl, fun needsFin => by cases needsFin⟩
  | refused _ _ _ _ => exact ⟨rfl, rfl, fun needsFin => by cases needsFin⟩
  | waiting _ _ _ => exact ⟨rfl, rfl, id⟩
  | delivered _ _ _ _ => exact ⟨rfl, rfl, id⟩
  | ignored _ _ _ _ => exact ⟨rfl, rfl, id⟩

theorem SendSpec.needsFin {sending : Sending} {handle handle' : StreamHandle}
    {target target' : StreamEnd} {polled : Poll (Except Error Unit)} {sending' : Option Sending}
    (spec : SendSpec sending handle target polled handle' target' sending') :
    handle'.needsFin = handle.needsFin ∨ (∃ error, sending.frame.body = .rst error) ∨
      ∃ error, polled = .ready (.error error) := by
  cases spec with
  | reset error body => exact Or.inr (Or.inl ⟨error, body⟩)
  | refused error _ _ _ => exact Or.inr (Or.inr ⟨error, rfl⟩)
  | waiting _ _ _ => exact Or.inl rfl
  | delivered _ _ _ _ => exact Or.inl rfl
  | ignored _ _ _ _ => exact Or.inl rfl

/-- A registered stream has at most one final frame, sent or waiting, and none is sent
while its handle needs one. -/
structure FinOwed (hub : Hub) (key : StreamKey) : Prop where
  sent : finals (hub.ends key).sent ≤ 1
  outgoing : ∀ handle, hub.entry key = some handle → finals (hub.ends key).outgoing ≤ 1
  owed : ∀ handle, hub.entry key = some handle → handle.needsFin = true →
    finals (hub.ends key).sent = 0

namespace FinOwed

variable {hub hub' : Hub} {key : StreamKey} {op : HubOp}

theorem of_gone (gone : hub'.entry key = none)
    (sent : finals (hub'.ends key).sent ≤ 1) : hub'.FinOwed key where
  sent := sent
  outgoing := by simp [gone]
  owed := by simp [gone]

/-- Nothing of the stream's own frames changes, and no handle comes to need a final one. -/
theorem of_same (law : hub.FinOwed key) (sent : (hub'.ends key).sent = (hub.ends key).sent)
    (outgoing : (hub'.ends key).outgoing = (hub.ends key).outgoing)
    (owes : ∀ handle', hub'.entry key = some handle' → ∃ handle, hub.entry key = some handle ∧
      (handle'.needsFin = true → handle.needsFin = true)) : hub'.FinOwed key where
  sent := by
    rw [sent]
    exact law.sent
  outgoing := by
    intro handle' found'
    obtain ⟨handle, found, -⟩ := owes handle' found'
    rw [outgoing]
    exact law.outgoing handle found
  owed := by
    intro handle' found' needsFin
    obtain ⟨handle, found, owed⟩ := owes handle' found'
    rw [sent]
    exact law.owed handle found (owed needsFin)

theorem step (law : hub.FinOwed key) (history : WriteHistory (hub.ends key))
    (step : hub.EntryStep key op hub') : hub'.FinOwed key := by
  cases step with
  | keeps _ same changes =>
      have sent := changes.application_keeps.2.2.1
      constructor
      · rw [sent]
        exact law.sent
      · intro handle found
        exact finals_changes changes history (law.outgoing handle (same.symm.trans found))
      · intro handle found needsFin
        rw [sent]
        exact law.owed handle (same.symm.trans found) needsFin
  | emits _ handle found frame rest queue after target =>
      have once := law.outgoing handle found
      simp only [StreamEnd.outgoing, queue, finals_append, finals_cons] at once
      have sent : finals (hub'.ends key).sent =
          finals (hub.ends key).sent + frame.isFin.toNat := by
        rw [target, finals_append]
        simp only [finals_cons, finals_nil, Frame.withStreamId_isFin, Nat.zero_add]
      have left : (hub'.ends key).stream.fout.sink.queue = rest := by rw [target]
      constructor
      · omega
      · intro other found'
        rw [StreamEnd.outgoing, finals_append, left]
        omega
      · intro other found' needsFin
        obtain rfl := Option.some.inj (after.symm.trans found')
        simp only [StreamHandle.afterFrame, Bool.and_eq_true, Bool.not_eq_true'] at needsFin
        have owed := law.owed handle found needsFin.1
        rw [sent, owed, needsFin.2, Bool.toNat_false]
  | finishes _ handle found needsFin _ _ _ gone target =>
      apply of_gone gone
      have final : Stream.finFrame.isFin = true := rfl
      rw [target, finals_append, law.owed handle found needsFin]
      simp [final]
  | ends _ _ _ _ _ _ gone target =>
      apply of_gone gone
      rw [target]
      exact law.sent
  | leaves gone _ sent _ _ =>
      apply of_gone gone
      rw [sent]
      exact law.sent
  | sends _ _ _ _ handle found handle' _ spec after _ =>
      obtain ⟨sent, outgoing, owed⟩ := spec.outgoing
      apply law.of_same sent outgoing
      intro other found'
      obtain rfl := Option.some.inj (after.symm.trans found')
      exact ⟨handle, found, owed⟩
  | closesWrite _ handle found after target =>
      apply law.of_same (by rw [target]) (by rw [target])
      intro other found'
      obtain rfl := Option.some.inj (after.symm.trans found')
      exact ⟨handle, found, id⟩
  | silences _ same target =>
      apply law.of_same (by rw [target]; rfl) (by rw [target]; rfl)
      exact fun handle' found' => ⟨handle', same.symm.trans found', id⟩

theorem of_reaches {id : StreamID} {streamLimit : Nat} {client : Bool}
    (reaches : Reaches Hub.step (opensIdle id) (Hub.new streamLimit client) hub)
    (existing : key < hub.nextKey) (own : (hub.ends key).id = id) : hub.FinOwed key := by
  refine entry_invariant (fun hub => hub.FinOwed key) (fun _ _ idle => idle) ?_ ?_ reaches
    existing own
  · intro hub window needsSyn created _
    have nothing : (StreamEnd.create id window needsSyn).outgoing = [] := rfl
    have sent : (StreamEnd.create id window needsSyn).sent = [] := rfl
    constructor <;> simp [created, nothing, sent]
  · intro hub op reached _ _ step law
    exact law.step (ends_invariant WriteHistory WriteHistory.create WriteHistory.change reached key)
      step

end FinOwed

/-- The remote resets the stream at a key, or sends a frame that the stream is reset for. -/
def resets (hub : Hub) (key : StreamKey) (op : HubOp) : Prop :=
  op = .pollSendToStream ∧ (hub.entry key).isSome = true ∧
    ∃ sending, hub.sending = some sending ∧
      sending.frame.header.streamId = (hub.ends key).id ∧
      ((∃ error, sending.frame.body = .rst error) ∨
        ∃ error, (hub.pollSendToStream sending).1 = .ready (.error error))

/-- Neither a reset nor the drop of the whole session ends the stream. -/
def keepsPeace (id : StreamID) (key : StreamKey) (hub : Hub) (op : HubOp) : Prop :=
  hub.opensIdle id op ∧ ¬ hub.resets key op ∧ op ≠ .dropManager

/-- A stream whose handle needs no final frame has sent one, and so has a stream that is
not registered any more. -/
structure FinPaid (hub : Hub) (key : StreamKey) : Prop where
  paid : ∀ handle, hub.entry key = some handle → handle.needsFin = false →
    0 < finals (hub.ends key).sent
  gone : hub.entry key = none →
    hub.manager.goneAway = true ∨ 0 < finals (hub.ends key).sent

namespace FinPaid

variable {hub : Hub} {key : StreamKey} {op : HubOp}

theorem of_entry {hub' : Hub} {handle : StreamHandle} (found : hub'.entry key = some handle)
    (paid : handle.needsFin = false → 0 < finals (hub'.ends key).sent) : hub'.FinPaid key where
  paid := by
    intro other found'
    obtain rfl := Option.some.inj (found.symm.trans found')
    exact paid
  gone := by simp [found]

theorem of_gone {hub' : Hub} (gone : hub'.entry key = none)
    (paid : hub'.manager.goneAway = true ∨ 0 < finals (hub'.ends key).sent) :
    hub'.FinPaid key where
  paid := by simp [gone]
  gone := fun _ => paid

theorem of_same (law : hub.FinPaid key) (same : (hub.step op).entry key = hub.entry key)
    (sent : ((hub.step op).ends key).sent = (hub.ends key).sent) : (hub.step op).FinPaid key := by
  cases entry : hub.entry key with
  | none =>
      apply of_gone (same.trans entry)
      rw [sent]
      exact (law.gone entry).imp_left fun gone => step_goneAway gone op
  | some handle =>
      apply of_entry (same.trans entry)
      rw [sent]
      exact law.paid handle entry

theorem step (law : hub.FinPaid key) (peace : hub.keepsPeace (hub.ends key).id key op)
    (step : hub.EntryStep key op (hub.step op)) : (hub.step op).FinPaid key := by
  obtain ⟨-, noReset, notDropped⟩ := peace
  cases step with
  | keeps _ same changes => exact law.of_same same changes.application_keeps.2.2.1
  | emits _ handle found frame rest queue after target =>
      apply of_entry after
      intro paid
      rw [target, finals_append]
      simp only [StreamHandle.afterFrame, Bool.and_eq_false_iff, Bool.not_eq_false'] at paid
      rcases paid with paid | isFin
      · exact (law.paid handle found paid).trans_le (Nat.le_add_right _ _)
      · simp [isFin]
  | finishes _ _ _ _ _ _ _ gone target =>
      have final : Stream.finFrame.isFin = true := rfl
      apply of_gone gone
      right
      rw [target, finals_append]
      simp [final]
  | ends _ handle found noFin _ _ gone target =>
      apply of_gone gone
      right
      rw [target]
      exact law.paid handle found noFin
  | leaves gone reason _ _ _ => exact of_gone gone (Or.inl (reason.resolve_right notDropped))
  | sends is sending current own handle found _ _ spec after _ =>
      apply of_entry after
      rw [spec.outgoing.1]
      rcases spec.needsFin with same | reset
      · rw [same]
        exact law.paid handle found
      · exact (noReset ⟨is, by simp [found], sending, current, own, reset⟩).elim
  | closesWrite _ handle found after target =>
      apply of_entry after
      rw [target]
      exact law.paid handle found
  | silences _ same target => exact law.of_same same (by rw [target]; rfl)

theorem of_reaches {id : StreamID} {streamLimit : Nat} {client : Bool}
    (reaches : Reaches Hub.step (keepsPeace id key) (Hub.new streamLimit client) hub)
    (existing : key < hub.nextKey) (own : (hub.ends key).id = id) : hub.FinPaid key := by
  refine entry_invariant (fun hub => hub.FinPaid key) (fun _ _ peace => peace.1) ?_ ?_ reaches
    existing own
  · intro hub window needsSyn _ entry
    exact of_entry entry fun needless => by cases needless
  · intro hub op _ own peace step law
    subst own
    exact law.step peace step

end FinPaid

/-- An existing stream that is not registered stays so and sends nothing. -/
theorem silent_of_gone {hub later : Hub} {id : StreamID} {key : StreamKey}
    (addressed : hub.Addressed) (owned : hub.TasksOwned id) (existing : key < hub.nextKey)
    (own : (hub.ends key).id = id) (gone : hub.entry key = none)
    (reaches : Reaches Hub.step (opensIdle id) hub later) :
    framesOf key later.emitted = framesOf key hub.emitted := by
  have all : later.Addressed ∧ later.TasksOwned id ∧ key < later.nextKey ∧
      (later.ends key).id = id ∧ later.entry key = none ∧
      (later.ends key).sent = (hub.ends key).sent := by
    refine reaches.invariant (fun later => later.Addressed ∧ later.TasksOwned id ∧
      key < later.nextKey ∧ (later.ends key).id = id ∧ later.entry key = none ∧
      (later.ends key).sent = (hub.ends key).sent) ?_ ⟨addressed, owned, existing, own, gone, rfl⟩
    rintro state op idle ⟨addressed, owned, existing, own, gone, sent⟩
    refine ⟨addressed.step op, owned.step addressed idle,
      existing.trans_le (state.step_nextKey_le op), (step_id addressed op existing).trans own, ?_⟩
    subst own
    cases step_entry addressed owned existing idle with
    | keeps _ same changes =>
        exact ⟨same.trans gone, changes.application_keeps.2.2.1.trans sent⟩
    | leaves stays _ same _ _ => exact ⟨stays, same.trans sent⟩
    | silences _ same target => exact ⟨same.trans gone, by rw [target]; exact sent⟩
    | emits _ _ found _ _ _ _ _ => rw [gone] at found; cases found
    | finishes _ _ found _ _ _ _ _ _ => rw [gone] at found; cases found
    | ends _ _ found _ _ _ _ _ => rw [gone] at found; cases found
    | sends _ _ _ _ _ found _ _ _ _ _ => rw [gone] at found; cases found
    | closesWrite _ _ found _ _ => rw [gone] at found; cases found
  rw [← all.1.sent key, ← addressed.sent key]
  exact all.2.2.2.2.2

/-- The half-close discipline of the stream at a key, whose frames `poll_next` yields
under the stream's id and with it in their headers. -/
structure HalfClosed (hub : Hub) (key : StreamKey) : Prop where
  own : ∀ frame ∈ framesOf key hub.emitted, frame.header.streamId = (hub.ends key).id
  once : finals (framesOf key hub.emitted) ≤ 1
  last : (framesOf key hub.emitted).Pairwise fun earlier later =>
    earlier.isFin = true → later.isData = false
  silent : hub.entry key = none →
    ∀ later, Reaches Hub.step (opensIdle (hub.ends key).id) hub later →
      framesOf key later.emitted = framesOf key hub.emitted

/-- Every stream whose id is not opened again while it is registered keeps the
discipline, and one that no reset and no GOAWAY has ended has sent a final frame when it
is not registered any more. -/
theorem halfClosed {id : StreamID} {streamLimit : Nat} {client : Bool} {hub : Hub}
    (reaches : Reaches Hub.step (opensIdle id) (Hub.new streamLimit client) hub)
    {key : StreamKey} (existing : key < hub.nextKey) (own : (hub.ends key).id = id) :
    hub.HalfClosed key ∧
      (Reaches Hub.step (keepsPeace id key) (Hub.new streamLimit client) hub →
        hub.entry key = none → hub.manager.goneAway = false →
          finals (framesOf key hub.emitted) = 1) := by
  have addressed := Addressed.of_reaches reaches
  have owed := FinOwed.of_reaches reaches existing own
  have history := ends_invariant WriteHistory WriteHistory.create WriteHistory.change reaches key
  have once : finals (framesOf key hub.emitted) ≤ 1 := by
    rw [← addressed.sent key]
    exact owed.sent
  have ownFrames : ∀ frame ∈ framesOf key hub.emitted,
      frame.header.streamId = (hub.ends key).id :=
    fun frame mem => (addressed.emitted key frame (mem_framesOf.1 mem)).2
  refine ⟨⟨ownFrames, once, ?_, fun gone later further => ?_⟩, fun peaceful gone alive => ?_⟩
  · rw [← addressed.sent key] at once ⊢
    have finLast : FinLast (hub.ends key).sent :=
      history.finLast.sublist (List.sublist_append_left _ _)
    exact finLast.last once
  · subst own
    exact silent_of_gone addressed (TasksOwned.of_reaches reaches) existing rfl gone further
  · have paid := (FinPaid.of_reaches peaceful existing own).gone gone
    rw [alive, addressed.sent key] at paid
    have some := paid.resolve_left (by simp)
    omega

/-- A stream that writes three bytes, is shut down and dropped. -/
theorem halfClosed_written :
    let hub := run Hub.step (Hub.new 4 true)
      [.createStream none 4 true, .pollWrite 0 7 [1, 2, 3], .pollShutdown 0, .pollShutdown 0,
        .dropStream 0, .pollNext (some 0) 0, .pollNext (some 0) 0, .pollNext (some 0) 0]
    hub.HalfClosed 0 ∧ finals (framesOf 0 hub.emitted) = 1 := by
  intro hub
  have idle : Reaches Hub.step (opensIdle (Constrained.clamp 3)) (Hub.new 4 true) hub :=
    reaches_run ⟨fun _ _ => rfl, trivial, trivial, trivial, trivial, trivial, trivial, trivial, trivial⟩
  have peace {state : Hub} {op : HubOp} (idle : state.opensIdle (Constrained.clamp 3) op)
      (others : op ≠ .pollSendToStream ∧ op ≠ .dropManager) :
      keepsPeace (Constrained.clamp 3) 0 state op :=
    ⟨idle, fun reset => others.1 reset.1, others.2⟩
  have peaceful :
      Reaches Hub.step (keepsPeace (Constrained.clamp 3) 0) (Hub.new 4 true) hub := by
    apply reaches_run
    exact ⟨peace (fun _ _ => rfl) (by decide), peace trivial (by decide),
      peace trivial (by decide), peace trivial (by decide), peace trivial (by decide),
      peace trivial (by decide), peace trivial (by decide), peace trivial (by decide), trivial⟩
  obtain ⟨closed, final⟩ := halfClosed idle (by decide : 0 < hub.nextKey) (by decide)
  exact ⟨closed, final peaceful (by decide) (by decide)⟩

end Hub

end Muxado

end NgrokRust
