import NgrokRust.MuxadoLink
import NgrokRust.MuxadoStreamEntry

/-!
# The two ends of a stream

A SYN creates one stream at its receiver, and a stream sends one SYN, so a stream has at
most one twin.  As long as an id is not opened again while it is live, the streams of the
two sides that use it are twins: whatever arrives for an id meets the twin of its sender.
-/

namespace NgrokRust

namespace Muxado

open LabelledRuns

theorem getElem?_of_longer {Entry : Type*} {first second : List Entry} (longer : first <+: second)
    {index : Nat} {entry : Entry} (at_ : first[index]? = some entry) :
    second[index]? = some entry := by
  obtain ⟨rest, rfl⟩ := longer
  rw [List.getElem?_append_left (List.getElem?_eq_some_iff.mp at_).1]
  exact at_

namespace Hub

theorem framesOf_pairwise {key : StreamKey} {emitted : List (Option StreamKey × Frame)}
    {Rel : Frame → Frame → Prop} : (framesOf key emitted).Pairwise Rel ↔
      emitted.Pairwise fun earlier later =>
        earlier.1 = some key → later.1 = some key → Rel earlier.2 later.2 := by
  simp [framesOf, List.pairwise_map, List.pairwise_filter]

end Hub

theorem Changes_opener {actor : StreamEnd.Actor} {before after : StreamEnd}
    (changes : StreamEnd.Changes actor before after) : after.opener = before.opener := by
  cases actor with
  | application => exact changes.application_keeps.2.1
  | manager => exact changes.manager_keeps.2.1

namespace Session

variable {peer session : Session} {op : SessionOp}

theorem StepSpec.emitted_grows {session' : Session} (spec : StepSpec session op session') :
    session.hub.emitted <+: session'.hub.emitted := by
  cases spec.writes with
  | nothing emitted _ _ => rw [emitted]
  | frame frame _ yields _ _ _ _ =>
      cases yields with
      | system _ _ _ _ _ emitted _ => exact ⟨_, emitted.symm⟩
      | stream _ _ _ _ _ _ _ emitted _ _ => exact ⟨_, emitted.symm⟩

namespace Lawful

theorem sent_pairwise (lawful : session.Lawful) (key : StreamKey) {Rel : Frame → Frame → Prop}
    (outgoing : (session.hub.ends key).outgoing.Pairwise Rel) :
    session.hub.emitted.Pairwise fun earlier later =>
      earlier.1 = some key → later.1 = some key → Rel earlier.2 later.2 := by
  have sent : (session.hub.ends key).sent.Pairwise Rel :=
    outgoing.sublist (List.sublist_append_left _ _)
  rw [lawful.addressed.sent key] at sent
  exact Hub.framesOf_pairwise.mp sent

theorem mem_outgoing (lawful : session.Lawful) {key : StreamKey} {frame : Frame}
    (member : (some key, frame) ∈ session.hub.emitted) :
    frame ∈ (session.hub.ends key).outgoing := by
  have inSent : frame ∈ (session.hub.ends key).sent := by
    rw [lawful.addressed.sent key]
    exact Hub.mem_framesOf.mpr member
  exact List.mem_append_left _ inSent

/-- A stream yields one SYN. -/
theorem syn_unique (lawful : session.Lawful) {key : StreamKey} {first second : Nat}
    {frame other : Frame} (at_ : session.hub.emitted[first]? = some (some key, frame))
    (at_' : session.hub.emitted[second]? = some (some key, other))
    (syn : frame.isSyn = true) (syn' : other.isSyn = true) : first = second := by
  have ordered := lawful.sent_pairwise key (lawful.writeHistory key).synFirst
  obtain ⟨inside, is⟩ := List.getElem?_eq_some_iff.mp at_
  obtain ⟨inside', is'⟩ := List.getElem?_eq_some_iff.mp at_'
  rw [List.pairwise_iff_getElem] at ordered
  rcases Nat.lt_trichotomy first second with before | same | after
  · have earlier := (ordered first second inside inside' before (by rw [is]) (by rw [is'])
      (by rw [is']; exact syn')).2
    rw [is] at earlier
    exact absurd (syn.symm.trans earlier) (by simp)
  · exact same
  · have earlier := (ordered second first inside' inside after (by rw [is']) (by rw [is])
      (by rw [is]; exact syn)).2
    rw [is'] at earlier
    exact absurd (syn'.symm.trans earlier) (by simp)

theorem opener_of_syn (lawful : session.Lawful) {key : StreamKey} {frame : Frame}
    (member : (some key, frame) ∈ session.hub.emitted) (syn : frame.isSyn = true) :
    (session.hub.ends key).opener = true := by
  by_contra acceptor
  have none := (lawful.writeHistory key).synless (Or.inl (by simpa using acceptor)) frame
    (lawful.mem_outgoing member)
  rw [syn] at none
  cases none

end Lawful

/-- The streams that a session has accepted come from different SYNs of its peer. -/
structure Births (peer session : Session) : Prop where
  opening : ∀ frame, session.reader = .opening frame → frame.isSyn = true
  syn : ∀ key < session.hub.nextKey, (session.hub.ends key).opener = false →
    ∃ key' frame, peer.hub.emitted[session.born key]? = some (some key', frame) ∧
      frame.isSyn = true ∧ frame.header.streamId = (session.hub.ends key).id
  le : ∀ key < session.hub.nextKey, (session.hub.ends key).opener = false →
    session.born key ≤ session.handled.length
  before : session.reader.reads = true → session.reader.past = false →
    ∀ key < session.hub.nextKey, (session.hub.ends key).opener = false →
      session.born key < session.handled.length
  distinct : ∀ first < session.hub.nextKey, ∀ second < session.hub.nextKey,
    (session.hub.ends first).opener = false → (session.hub.ends second).opener = false →
    session.born first = session.born second → first = second

namespace Births

/-- No stream of the peer is new. -/
theorem of_old (births : Births peer session) {session' : Session}
    (born : session'.born = session.born)
    (old : ∀ key < session'.hub.nextKey, (session'.hub.ends key).opener = false →
      key < session.hub.nextKey ∧ (session.hub.ends key).opener = false ∧
        (session'.hub.ends key).id = (session.hub.ends key).id)
    (handled : session.handled.length ≤ session'.handled.length)
    (opening : ∀ frame, session'.reader = .opening frame → frame.isSyn = true)
    (before : session'.reader.reads = true → session'.reader.past = false →
      session.reader.reads = true ∧ session.reader.past = false ∨
        session.handled.length < session'.handled.length) : Births peer session' where
  opening := opening
  syn := by
    intro key existing acceptor
    obtain ⟨existing, acceptor, id⟩ := old key existing acceptor
    rw [born, id]
    exact births.syn key existing acceptor
  le := by
    intro key existing acceptor
    obtain ⟨existing, acceptor, -⟩ := old key existing acceptor
    rw [born]
    exact (births.le key existing acceptor).trans handled
  before := by
    intro reads past key existing acceptor
    obtain ⟨existing, acceptor, -⟩ := old key existing acceptor
    rw [born]
    rcases before reads past with ⟨reads, past⟩ | later
    · exact (births.before reads past key existing acceptor).trans_le handled
    · exact (births.le key existing acceptor).trans_lt later
  distinct := by
    intro first existing second existing' acceptor acceptor'
    obtain ⟨existing, acceptor, -⟩ := old first existing acceptor
    obtain ⟨existing', acceptor', -⟩ := old second existing' acceptor'
    rw [born]
    exact births.distinct first existing second existing' acceptor acceptor'

/-- The next stream comes from the SYN in the hand of the read task, which is behind all
SYNs of earlier streams. -/
theorem of_accepted (births : Births peer session) {session' : Session} {frame : Frame}
    {key' : StreamKey} (nextKey : session'.hub.nextKey = session.hub.nextKey + 1)
    (old : ∀ key < session.hub.nextKey,
      (session'.hub.ends key).opener = (session.hub.ends key).opener ∧
        (session'.hub.ends key).id = (session.hub.ends key).id ∧
        session'.born key = session.born key)
    (newborn : session'.born session.hub.nextKey = session.handled.length)
    (own : frame.header.streamId = (session'.hub.ends session.hub.nextKey).id)
    (at_ : peer.hub.emitted[session.handled.length]? = some (some key', frame))
    (isSyn : frame.isSyn = true)
    (earlier : ∀ key < session.hub.nextKey, (session.hub.ends key).opener = false →
      session.born key < session.handled.length)
    (handled : session'.handled = session.handled) (past : session'.reader.past = true)
    (opened : ∀ frame, session'.reader ≠ .opening frame) : Births peer session' := by
  have split (key : StreamKey) (existing : key < session'.hub.nextKey) :
      key < session.hub.nextKey ∨ key = session.hub.nextKey := by
    rw [nextKey] at existing
    exact Nat.lt_succ_iff_lt_or_eq.mp existing
  constructor
  case opening => exact fun frame opening => absurd opening (opened frame)
  case syn =>
    intro key existing acceptor
    rcases split key existing with existing | rfl
    · obtain ⟨opener, id, same⟩ := old key existing
      rw [opener] at acceptor
      rw [id, same]
      exact births.syn key existing acceptor
    · rw [newborn]
      exact ⟨key', frame, at_, isSyn, own⟩
  case le =>
    intro key existing acceptor
    rw [handled]
    rcases split key existing with existing | rfl
    · obtain ⟨opener, -, same⟩ := old key existing
      rw [opener] at acceptor
      rw [same]
      exact births.le key existing acceptor
    · exact newborn.le
  case before =>
    intro _ fresh
    rw [past] at fresh
    cases fresh
  case distinct =>
    have apart (key : StreamKey) (existing : key < session.hub.nextKey)
        (acceptor : (session'.hub.ends key).opener = false) :
        session'.born key ≠ session'.born session.hub.nextKey := by
      obtain ⟨opener, -, same⟩ := old key existing
      rw [opener] at acceptor
      rw [same, newborn]
      exact (earlier key existing acceptor).ne
    intro first existing second existing' acceptor acceptor' same
    rcases split first existing with existing | rfl
    · rcases split second existing' with existing' | rfl
      · rw [(old first existing).2.2, (old second existing').2.2] at same
        rw [(old first existing).1] at acceptor
        rw [(old second existing').1] at acceptor'
        exact births.distinct first existing second existing' acceptor acceptor' same
      · exact absurd same (apart first existing acceptor)
    · rcases split second existing' with existing' | rfl
      · exact absurd same.symm (apart second existing' acceptor')
      · rfl

theorem key_of_syn (wired : peer.Wired) {origin : Option StreamKey} {frame : Frame}
    (member : (origin, frame) ∈ peer.hub.emitted) (isSyn : frame.isSyn = true) :
    ∃ key', origin = some key' := by
  cases origin with
  | some key' => exact ⟨key', rfl⟩
  | none =>
      obtain ⟨system, -, rfl⟩ := wired.yielded frame member
      rw [system.isSyn_toFrame] at isSyn
      cases isSyn

theorem receive (births : Births peer session) (linked : Linked peer session)
    (op : SessionOp) : Births peer (session.step op) := by
  have spec := session.step_spec linked.lawful.sending op
  generalize session.step op = session' at spec
  cases spec.opens linked.lawful.addressed with
  | evolves evolves born =>
      have old (key : StreamKey) (existing : key < session'.hub.nextKey)
          (acceptor : (session'.hub.ends key).opener = false) :
          key < session.hub.nextKey ∧ (session.hub.ends key).opener = false ∧
            (session'.hub.ends key).id = (session.hub.ends key).id := by
        rw [evolves.nextKey] at existing
        obtain ⟨actor, changes⟩ := evolves.ends key existing
        exact ⟨existing, (Changes_opener changes).symm.trans acceptor, Changes_id changes⟩
      cases spec.handles evolves with
      | keeps handled opening later _ =>
          refine births.of_old born old (by rw [handled]) (fun frame reader => ?_)
            fun reads past => .inl (later reads past)
          rcases opening frame reader with same | syn
          · exact births.opening frame same
          · exact syn
      | settles frame hand past follows handled past' opened =>
          exact births.of_old born old (by simp [handled])
            (fun frame reader => absurd reader (opened frame)) fun _ _ => .inr (by simp [handled])
  | accepts frame reader newId key created born reader' handled =>
      obtain ⟨-, rfl, nextKey, rfl, ends, -⟩ := Hub.createStream_eq_ok created
      have old (key : StreamKey) (existing : key < session.hub.nextKey) :
          (session'.hub.ends key).opener = (session.hub.ends key).opener ∧
            (session'.hub.ends key).id = (session.hub.ends key).id ∧
            session'.born key = session.born key := by
        rw [ends, born, Function.update_of_ne existing.ne, Function.update_of_ne existing.ne]
        have changes := session.hub.changes_removeStream
          (session.hub.chosenId (some frame.header.streamId)) key
        exact ⟨Changes_opener changes, Changes_id changes, rfl⟩
      have follows : session.reader.follows = true := by rw [reader]; rfl
      obtain ⟨-, origin, at_⟩ := linked.forth.hand follows frame (by rw [reader]; rfl)
      have isSyn := births.opening frame reader
      obtain ⟨key', rfl⟩ := key_of_syn linked.peerWired (List.mem_of_getElem? at_) isSyn
      refine births.of_accepted nextKey old ?_ ?_ at_ isSyn
        (births.before (by rw [reader]; rfl) (by rw [reader]; rfl)) handled ?_ ?_
      · rw [born, Function.update_self]
      · rw [ends, Function.update_self]
        rfl
      · rw [reader']
        rfl
      · intro frame opening
        rw [reader'] at opening
        cases opening
  | serves running requested newId key created born reader handled =>
      obtain ⟨-, rfl, nextKey, rfl, ends, -⟩ := Hub.createStream_eq_ok created
      have old (key : StreamKey) (existing : key < session'.hub.nextKey)
          (acceptor : (session'.hub.ends key).opener = false) :
          key < session.hub.nextKey ∧ (session.hub.ends key).opener = false ∧
            (session'.hub.ends key).id = (session.hub.ends key).id := by
        rw [nextKey] at existing
        rw [ends] at acceptor ⊢
        rcases Nat.lt_succ_iff_lt_or_eq.mp existing with existing | rfl
        · rw [Function.update_of_ne existing.ne] at acceptor ⊢
          have changes := session.hub.changes_removeStream (session.hub.chosenId none) key
          exact ⟨existing, (Changes_opener changes).symm.trans acceptor, Changes_id changes⟩
        · rw [Function.update_self] at acceptor
          cases acceptor
      exact births.of_old born old (by rw [handled])
        (fun frame opening => births.opening frame (reader ▸ opening))
        fun reads past => .inl ⟨reader ▸ reads, reader ▸ past⟩

theorem send (births : Births session peer) (lawful : session.Lawful) (op : SessionOp) :
    Births (session.step op) peer where
  opening := births.opening
  syn := by
    intro key existing acceptor
    obtain ⟨key', frame, at_, rest⟩ := births.syn key existing acceptor
    have longer := (session.step_spec lawful.sending op).emitted_grows
    exact ⟨key', frame, getElem?_of_longer longer at_, rest⟩
  le := births.le
  before := births.before
  distinct := births.distinct

theorem new (first second : SessionBuilder) (client client' : Bool) :
    Births (Session.new first.window first.acceptQueueSize first.streamLimit client)
      (Session.new second.window second.acceptQueueSize second.streamLimit client') where
  opening := fun _ reader => by cases reader
  syn := fun _ existing => absurd existing (Nat.not_lt_zero _)
  le := fun _ existing => absurd existing (Nat.not_lt_zero _)
  before := fun _ _ _ existing => absurd existing (Nat.not_lt_zero _)
  distinct := fun _ existing => absurd existing (Nat.not_lt_zero _)

end Births

theorem Births.accepted (births : Births peer session) {key' key : StreamKey}
    (accepted : Accepted peer session key' key) :
    ∃ frame, peer.hub.emitted[session.born key]? = some (some key', frame) ∧
      frame.isSyn = true ∧ frame.header.streamId = (session.hub.ends key).id := by
  obtain ⟨existing, acceptor, frame, at_⟩ := accepted
  obtain ⟨other, frame', at_', syn, id⟩ := births.syn key existing acceptor
  obtain ⟨same, rfl⟩ := Prod.mk.inj (Option.some.inj (at_.symm.trans at_'))
  exact ⟨frame, at_, syn, id⟩

/-- What is known of two connected sessions and the streams they have accepted. -/
structure Related (peer session : Session) : Prop where
  linked : Linked peer session
  forth : Births peer session
  back : Births session peer

namespace Related

theorem symm (related : Related peer session) : Related session peer :=
  ⟨related.linked.symm, related.back, related.forth⟩

variable (related : Related peer session) {key' other' key other : StreamKey}

include related

theorem opener (accepted : Accepted peer session key' key) :
    (peer.hub.ends key').opener = true := by
  obtain ⟨frame, at_, syn, -⟩ := related.forth.accepted accepted
  exact related.linked.peerLawful.opener_of_syn (List.mem_of_getElem? at_) syn

theorem accepted_id (accepted : Accepted peer session key' key) :
    key' < peer.hub.nextKey ∧ (peer.hub.ends key').id = (session.hub.ends key).id := by
  obtain ⟨frame, at_, -, id⟩ := related.forth.accepted accepted
  obtain ⟨existing, own⟩ :=
    related.linked.peerLawful.addressed.emitted key' frame (List.mem_of_getElem? at_)
  exact ⟨existing, own.symm.trans id⟩

theorem twins_id (twins : Twins peer session key' key) :
    key' < peer.hub.nextKey ∧ key < session.hub.nextKey ∧
      (peer.hub.ends key').id = (session.hub.ends key).id := by
  rcases twins with accepted | accepted
  · obtain ⟨existing, id⟩ := related.accepted_id accepted
    exact ⟨existing, accepted.1, id⟩
  · obtain ⟨existing, id⟩ := related.symm.accepted_id accepted
    exact ⟨accepted.1, existing, id.symm⟩

/-- A stream has at most one twin. -/
theorem twins_unique (twins : Twins peer session key' key)
    (twins' : Twins peer session other' key) : key' = other' := by
  rcases twins with accepted | accepted <;> rcases twins' with accepted' | accepted'
  · obtain ⟨-, -, frame, at_⟩ := accepted
    obtain ⟨-, -, frame', at_'⟩ := accepted'
    have same := (Prod.mk.inj (Option.some.inj (at_.symm.trans at_'))).1
    exact Option.some.inj same
  · have opener := related.symm.opener accepted'
    rw [accepted.2.1] at opener
    cases opener
  · have opener := related.symm.opener accepted
    rw [accepted'.2.1] at opener
    cases opener
  · obtain ⟨frame, at_, syn, -⟩ := related.back.accepted accepted
    obtain ⟨frame', at_', syn', -⟩ := related.back.accepted accepted'
    have same := related.linked.lawful.syn_unique at_ at_' syn syn'
    exact related.back.distinct key' accepted.1 other' accepted'.1 accepted.2.1 accepted'.2.1 same

end Related

theorem StepSpec.id {session' : Session} (spec : StepSpec session op session')
    (lawful : session.Lawful) {key : StreamKey} (existing : key < session.hub.nextKey) :
    (session'.hub.ends key).id = (session.hub.ends key).id := by
  rcases spec.hub with same | ⟨hubOp, step, -⟩
  · rw [same]
  · rw [step]
    exact Hub.step_id lawful.addressed hubOp existing

/-- An existing stream was opened when and where it was opened. -/
theorem StepSpec.birth {session' : Session} (spec : StepSpec session op session')
    (lawful : session.Lawful) {key : StreamKey} (existing : key < session.hub.nextKey) :
    key < session'.hub.nextKey ∧ session'.born key = session.born key ∧
      (session'.hub.ends key).opener = (session.hub.ends key).opener := by
  cases spec.opens lawful.addressed with
  | evolves evolves born =>
      obtain ⟨actor, changes⟩ := evolves.ends key existing
      rw [evolves.nextKey, born]
      exact ⟨existing, rfl, Changes_opener changes⟩
  | accepts frame _ newId newKey created born _ _ =>
      obtain ⟨-, rfl, nextKey, rfl, ends, -⟩ := Hub.createStream_eq_ok created
      rw [nextKey, born, ends, Function.update_of_ne existing.ne, Function.update_of_ne existing.ne]
      exact ⟨Nat.lt_succ_of_lt existing, rfl, Changes_opener (session.hub.changes_removeStream _ key)⟩
  | serves _ _ newId newKey created born _ _ =>
      obtain ⟨-, rfl, nextKey, rfl, ends, -⟩ := Hub.createStream_eq_ok created
      rw [nextKey, born, ends, Function.update_of_ne existing.ne]
      exact ⟨Nat.lt_succ_of_lt existing, rfl, Changes_opener (session.hub.changes_removeStream _ key)⟩

/-- A step of the session leaves the twins of its streams as they are. -/
theorem Related.twins_step (related : Related peer session) (op : SessionOp)
    {key' key : StreamKey} (existing : key < session.hub.nextKey) :
    Twins peer (session.step op) key' key ↔ Twins peer session key' key := by
  have spec := session.step_spec related.linked.lawful.sending op
  have longer := spec.emitted_grows
  generalize session.step op = session' at spec longer
  have same := spec.birth related.linked.lawful existing
  have accepted : Accepted peer session' key' key ↔ Accepted peer session key' key := by
    rw [Accepted, Accepted, same.2.1, same.2.2]
    exact and_congr_left fun _ => iff_of_true same.1 existing
  have accepts : Accepted session' peer key key' ↔ Accepted session peer key key' := by
    refine and_congr_right fun existing' => and_congr_right fun acceptor => ?_
    -- the SYN of an accepted stream was already there
    obtain ⟨other, frame', at_, -⟩ := related.back.syn key' existing' acceptor
    have at_' := getElem?_of_longer longer at_
    rw [at_, at_']
  exact or_congr accepted accepts

/-- The twin of a new stream has sent the SYN that the session accepts. -/
theorem Related.twins_new (related : Related peer session) (op : SessionOp) {key' key : StreamKey}
    (new : session.hub.nextKey ≤ key) (twins : Twins peer (session.step op) key' key) :
    ∃ frame, session.reader = .opening frame ∧ (session.step op).handled = session.handled ∧
      peer.hub.emitted[session.handled.length]? = some (some key', frame) := by
  have spec := session.step_spec related.linked.lawful.sending op
  have longer := spec.emitted_grows
  generalize session.step op = session' at spec longer twins
  rcases twins with accepted | ⟨existing', acceptor, frame, at_⟩
  · obtain ⟨existing, acceptor, frame, at_⟩ := accepted
    cases spec.opens related.linked.lawful.addressed with
    | evolves evolves _ =>
        rw [evolves.nextKey] at existing
        exact absurd existing (Nat.not_lt.mpr new)
    | accepts frame' reader newId newKey created born _ handled =>
        obtain ⟨-, rfl, nextKey, -⟩ := Hub.createStream_eq_ok created
        rw [nextKey] at existing
        obtain rfl : key = session.hub.nextKey := Nat.le_antisymm (Nat.lt_succ_iff.mp existing) new
        rw [born, Function.update_self] at at_
        obtain ⟨-, origin, hand⟩ := related.linked.forth.hand (by rw [reader]; rfl) frame'
          (by rw [reader]; rfl)
        obtain ⟨-, rfl⟩ := Prod.mk.inj (Option.some.inj (at_.symm.trans hand))
        exact ⟨frame, reader, handled, at_⟩
    | serves _ _ newId newKey created _ _ _ =>
        obtain ⟨-, rfl, nextKey, -, ends, -⟩ := Hub.createStream_eq_ok created
        rw [nextKey] at existing
        obtain rfl : key = session.hub.nextKey := Nat.le_antisymm (Nat.lt_succ_iff.mp existing) new
        rw [ends, Function.update_self] at acceptor
        cases acceptor
  · -- an accepted stream of the peer comes from an earlier one
    obtain ⟨other, frame', at_', -⟩ := related.back.syn key' existing' acceptor
    have same := Option.some.inj (at_.symm.trans (getElem?_of_longer longer at_'))
    obtain rfl : other = key := Option.some.inj (Prod.mk.inj same).1.symm
    have existing := (related.linked.lawful.addressed.emitted other frame'
      (List.mem_of_getElem? at_')).1
    exact absurd existing (Nat.not_lt.mpr new)

def CreatedAt (session : Session) (index : Nat) : Prop :=
  ∃ key < session.hub.nextKey, (session.hub.ends key).opener = false ∧ session.born key = index

theorem StepSpec.createdAt {session' : Session} (spec : StepSpec session op session')
    (lawful : session.Lawful) {index : Nat} (created : session.CreatedAt index) :
    session'.CreatedAt index := by
  obtain ⟨key, existing, acceptor, born⟩ := created
  obtain ⟨existing', born', opener⟩ := spec.birth lawful existing
  exact ⟨key, existing', opener.trans acceptor, born'.trans born⟩

/-- The read task has created a stream for every SYN that it has handled or passed on. -/
structure SynsAccepted (session : Session) : Prop where
  handled : ∀ index frame, session.handled[index]? = some frame → frame.isSyn = true →
    session.CreatedAt index
  passed : session.reader.past = true → session.reader.follows = true →
    ∀ frame, session.reader.hand = some frame → frame.isSyn = true →
      session.CreatedAt session.handled.length

namespace SynsAccepted

theorem step (syns : session.SynsAccepted) (linked : Linked peer session)
    (linked' : Linked peer (session.step op)) : (session.step op).SynsAccepted := by
  have lawful := linked.lawful
  have spec := session.step_spec lawful.sending op
  have hand' := linked'.forth.hand
  generalize session.step op = session' at spec hand' ⊢
  have stays {index : Nat} : session.CreatedAt index → session'.CreatedAt index :=
    spec.createdAt lawful
  have earlier (handled : session'.handled = session.handled) (index : Nat) (frame : Frame)
      (at_ : session'.handled[index]? = some frame) (syn : frame.isSyn = true) :
      session'.CreatedAt index :=
    stays (syns.handled index frame (handled ▸ at_) syn)
  cases spec.opens lawful.addressed with
  | evolves evolves born =>
      cases spec.handles evolves with
      | keeps handled _ _ passed =>
          refine ⟨earlier handled, fun past' follows' frame inHand syn => ?_⟩
          rcases passed past' follows' with ⟨past, follows⟩ | ⟨other, other', notSyn⟩
          · -- the frame is the one that was in the hand before
            obtain ⟨before, held⟩ := Reader.hand_of_past past
            obtain ⟨-, origin, at_⟩ := linked.forth.hand follows before held
            obtain ⟨-, origin', at_'⟩ := hand' follows' frame inHand
            rw [handled] at at_' ⊢
            obtain ⟨-, rfl⟩ := Prod.mk.inj (Option.some.inj (at_.symm.trans at_'))
            exact stays (syns.passed past follows before held syn)
          · obtain rfl := Option.some.inj (inHand.symm.trans other')
            rw [syn] at notSyn
            cases notSyn
      | settles frame hand past follows handled past' _ =>
          refine ⟨fun index other at_ syn => ?_, fun past => ?_⟩
          · rw [handled] at at_
            rcases Nat.lt_trichotomy index session.handled.length with before | rfl | after
            · rw [List.getElem?_append_left before] at at_
              exact stays (syns.handled index other at_ syn)
            · rw [List.getElem?_concat_length] at at_
              obtain rfl := Option.some.inj at_
              exact stays (syns.passed past follows frame hand syn)
            · have small := (List.getElem?_eq_some_iff.mp at_).1
              rw [List.length_append, List.length_singleton] at small
              omega
          · rw [past'] at past
            cases past
  | accepts frame reader newId key created born reader' handled =>
      refine ⟨earlier handled, fun _ _ _ _ _ => ?_⟩
      obtain ⟨-, rfl, nextKey, rfl, ends, -⟩ := Hub.createStream_eq_ok created
      refine ⟨session.hub.nextKey, nextKey ▸ Nat.lt_succ_self _, ?_, ?_⟩
      · rw [ends, Function.update_self]
        rfl
      · rw [born, handled, Function.update_self]
  | serves running requested newId key created born reader handled =>
      refine ⟨earlier handled, fun past follows frame inHand syn => ?_⟩
      rw [reader] at past follows inHand
      rw [handled]
      exact stays (syns.passed past follows frame inHand syn)

theorem new (window acceptQueueSize streamLimit : Nat) (client : Bool) :
    (Session.new window acceptQueueSize streamLimit client).SynsAccepted where
  handled := by
    intro index frame at_
    cases at_
  passed := by
    intro past
    cases past

end SynsAccepted

/-- A stream of the peer uses an id: it is registered under it, or a frame of it with the
id is on the way. -/
def LiveAt (peer session : Session) (id : StreamID) (key : StreamKey) : Prop :=
  (∃ handle, peer.hub.getStream id = some handle ∧ handle.stream = key) ∨
    ∃ frame, (some key, frame) ∈ inFlight peer session ∧ frame.header.streamId = id

theorem LiveAt.uses {id : StreamID} {key : StreamKey} (live : LiveAt peer session id key) :
    Uses peer session id := by
  rcases live with ⟨handle, found, -⟩ | ⟨frame, flies, own⟩
  · exact Or.inl ⟨handle, found⟩
  · exact Or.inr ⟨key, frame, flies, own⟩

theorem mem_inFlight {origin : Option StreamKey} {frame : Frame}
    (at_ : peer.hub.emitted[session.handled.length]? = some (origin, frame)) :
    (origin, frame) ∈ inFlight peer session := by
  apply List.mem_of_getElem? (i := 0)
  rw [inFlight, List.getElem?_drop]
  exact at_

theorem StepSpec.handled_le {session' : Session} (spec : StepSpec session op session')
    (lawful : session.Lawful) : session.handled.length ≤ session'.handled.length := by
  cases spec.opens lawful.addressed with
  | evolves evolves _ =>
      cases spec.handles evolves with
      | keeps handled _ _ _ => rw [handled]
      | settles _ _ _ _ handled _ _ => simp [handled]
  | accepts _ _ _ _ _ _ _ handled => rw [handled]
  | serves _ _ _ _ _ _ _ handled => rw [handled]

theorem LiveAt.of_receive {id : StreamID} {key : StreamKey} (lawful : session.Lawful)
    (live : LiveAt peer (session.step op) id key) : LiveAt peer session id key := by
  have fewer := (session.step_spec lawful.sending op).handled_le lawful
  refine live.imp_right fun ⟨frame, flies, own⟩ => ⟨frame, ?_, own⟩
  rw [inFlight] at flies ⊢
  exact List.drop_subset_drop_left _ fewer flies

/-- A stream that uses an id has used it before, or was opened under it. -/
theorem LiveAt.of_send {id : StreamID} {key : StreamKey} (lawful : session.Lawful)
    (owned : session.hub.TasksOwned id) (live : LiveAt (session.step op) peer id key) :
    LiveAt session peer id key ∨ key = session.hub.nextKey ∧
      key < (session.step op).hub.nextKey ∧ ((session.step op).hub.ends key).id = id := by
  have spec := session.step_spec lawful.sending op
  have lawful' := lawful.step op
  generalize session.step op = session' at spec lawful' live
  rcases live with ⟨handle', found', rfl⟩ | ⟨frame, flies, own⟩
  · have created {remote : Option StreamID} {needsSyn : Bool} {newId : StreamID}
        {newKey : StreamKey}
        (opened : session.hub.createStream remote session.window needsSyn =
          .ok (newId, newKey, session'.hub)) :
        LiveAt session peer id handle'.stream ∨ handle'.stream = session.hub.nextKey := by
      obtain ⟨-, -, -, -, -, streams, -⟩ := Hub.createStream_eq_ok opened
      rw [Hub.getStream, streams] at found'
      by_cases is : id = newId
      · subst is
        rw [AList.lookup_insert] at found'
        obtain rfl := Option.some.inj found'
        exact Or.inr (Hub.createStream_eq_ok opened).2.1
      · rw [AList.lookup_insert_ne is] at found'
        exact Or.inl (Or.inl ⟨handle', found', rfl⟩)
    obtain ⟨existing', id'⟩ := lawful'.addressed.handle id handle' found'
    have late : LiveAt session peer id handle'.stream ∨ handle'.stream = session.hub.nextKey := by
      cases spec.opens lawful.addressed with
      | evolves evolves _ =>
          obtain ⟨handle, found, kept⟩ := evolves.handle id handle' found'
          exact Or.inl (Or.inl ⟨handle, found, kept.stream.symm⟩)
      | accepts _ _ _ _ opened _ _ _ => exact created opened
      | serves _ _ _ _ opened _ _ _ => exact created opened
    exact late.imp_right fun is => ⟨is, existing', id'⟩
  · left
    rw [inFlight] at flies
    cases spec.writes with
    | nothing emitted _ _ =>
        rw [emitted] at flies
        exact Or.inr ⟨frame, flies, own⟩
    | frame new _ yields _ _ _ _ =>
        cases yields with
        | system _ _ _ _ _ emitted _ =>
            rw [emitted, List.drop_append] at flies
            rcases List.mem_append.mp flies with old | last
            · exact Or.inr ⟨frame, old, own⟩
            · cases List.mem_singleton.mp (List.mem_of_mem_drop last)
        | stream key' id' handle index alive task registered emitted _ _ =>
            rw [emitted, List.drop_append] at flies
            rcases List.mem_append.mp flies with old | last
            · exact Or.inr ⟨frame, old, own⟩
            · obtain ⟨same, rfl⟩ := Prod.mk.inj (List.mem_singleton.mp (List.mem_of_mem_drop last))
              obtain rfl := Option.some.inj same
              have inTasks := List.mem_of_getElem? task
              obtain ⟨existing, taskId, -⟩ := lawful.addressed.task _ inTasks
              have frameId := (lawful'.addressed.emitted key frame (by simp [emitted])).2
              obtain rfl : id' = id :=
                taskId.symm.trans ((spec.id lawful existing).symm.trans (frameId.symm.trans own))
              exact Or.inl (owned alive key inTasks)

/-- A stream is opened by the session itself in `serveOpen` only. -/
theorem eq_serveOpen (opened : session.hub.nextKey < (session.step op).hub.nextKey)
    (opener : ((session.step op).hub.ends session.hub.nextKey).opener = true)
    (lawful : session.Lawful) : op = .serveOpen := by
  have spec := session.step_spec lawful.sending op
  rcases spec.hub with same | ⟨hubOp, step, calls, -⟩
  · rw [same] at opened
    exact absurd opened (Nat.lt_irrefl _)
  · obtain ⟨remote, window, needsSyn, newId, rfl, -⟩ :=
      Hub.created_of_nextKey (Nat.le_refl _) (step ▸ opened)
    have calls := calls remote window needsSyn rfl
    cases op with
    | serveOpen => rfl
    | readerStep =>
        obtain ⟨frame, reader⟩ := calls
        simp only [Session.step, readerStep, reader] at opened opener
        split at opened
        · next newId' key hub created =>
            obtain ⟨-, rfl, -, -, ends, -⟩ := Hub.createStream_eq_ok created
            simp only [created, ends, Function.update_self] at opener
            cases opener
        · exact absurd opened (Nat.lt_irrefl _)
    | _ => exact calls.elim

/-- The streams of the two sides that use an id are the two ends of one stream. -/
structure Paired (id : StreamID) (peer session : Session) : Prop where
  ownedPeer : peer.hub.TasksOwned id
  owned : session.hub.TasksOwned id
  solePeer : ∀ {key' other'}, LiveAt peer session id key' → LiveAt peer session id other' →
    key' = other'
  sole : ∀ {key other}, LiveAt session peer id key → LiveAt session peer id other → key = other
  twins : ∀ {key' key}, LiveAt peer session id key' → LiveAt session peer id key →
    Twins peer session key' key

namespace Paired

variable {id : StreamID}

theorem symm (paired : Paired id peer session) : Paired id session peer :=
  ⟨paired.owned, paired.ownedPeer, paired.sole, paired.solePeer,
    fun live live' => (paired.twins live' live).symm⟩

/-- A stream is opened under an id that its own side does not use, and the peer uses it
for the twin of the stream at most. -/
theorem opens (paired : Paired id peer session) (related : Related peer session)
    (unused : opensUnusedAt id peer session op)
    (opened : session.hub.nextKey < (session.step op).hub.nextKey)
    (own : ((session.step op).hub.ends session.hub.nextKey).id = id) :
    (∀ key, ¬ LiveAt session peer id key) ∧
      ∀ key', LiveAt peer session id key' →
        Twins peer (session.step op) key' session.hub.nextKey := by
  have spec := session.step_spec related.linked.lawful.sending op
  generalize after : session.step op = session' at spec opened own
  cases spec.opens related.linked.lawful.addressed with
  | evolves evolves _ =>
      rw [evolves.nextKey] at opened
      exact absurd opened (Nat.lt_irrefl _)
  | accepts frame reader newId newKey created born _ _ =>
      obtain ⟨-, rfl, nextKey, rfl, ends, -⟩ := Hub.createStream_eq_ok created
      rw [ends, Function.update_self] at own
      obtain ⟨-, origin, hand⟩ := related.linked.forth.hand (by rw [reader]; rfl) frame
        (by rw [reader]; rfl)
      have syn := related.forth.opening frame reader
      have member := List.mem_of_getElem? hand
      obtain ⟨sender, rfl⟩ : ∃ sender, origin = some sender := by
        cases origin with
        | some sender => exact ⟨sender, rfl⟩
        | none =>
            obtain ⟨system, -, rfl⟩ := related.linked.peerWired.yielded frame member
            rw [system.isSyn_toFrame] at syn
            cases syn
      have sends : LiveAt peer session id sender := Or.inr ⟨frame, mem_inFlight hand, own⟩
      constructor
      · intro key live
        -- the sender of the SYN would have a twin already
        rcases paired.twins sends live with accepted | accepted
        · obtain ⟨frame', at_, syn', -⟩ := related.forth.accepted accepted
          have same := related.linked.peerLawful.syn_unique at_ hand syn' syn
          have before := related.forth.before (by rw [reader]; rfl) (by rw [reader]; rfl) key
            accepted.1 accepted.2.1
          exact absurd same before.ne
        · have opener := related.linked.peerLawful.opener_of_syn member syn
          rw [accepted.2.1] at opener
          cases opener
      · intro key' live
        obtain rfl := paired.solePeer live sends
        refine Or.inl ⟨opened, ?_, frame, ?_⟩
        · rw [ends, Function.update_self]
          rfl
        · rw [born, Function.update_self]
          exact hand
  | serves running requested newId newKey created _ _ _ =>
      obtain ⟨room, rfl, -, rfl, ends, -⟩ := Hub.createStream_eq_ok created
      rw [ends, Function.update_self] at own
      have serves : session.callsCreateStream .serveOpen := ⟨running, requested⟩
      obtain rfl : op = .serveOpen :=
        eq_serveOpen (after ▸ opened) (by rw [after, ends, Function.update_self]; rfl)
          related.linked.lawful
      obtain ⟨unusedPeer, unusedOwn⟩ := unused serves room own
      exact ⟨fun key live => unusedOwn live.uses, fun key' live => absurd live.uses unusedPeer⟩

/-- The step opens no stream under an id that is registered. -/
theorem idle (paired : Paired id peer session) (related : Related peer session)
    (unused : opensUnusedAt id peer session op) {hubOp : HubOp}
    (step : (session.step op).hub = session.hub.step hubOp) : session.hub.opensIdle id hubOp := by
  cases hubOp with
  | createStream remote window needsSyn =>
      intro room chosen
      obtain ⟨newId, key, hub', created⟩ : ∃ newId key hub',
          session.hub.createStream remote window needsSyn = .ok (newId, key, hub') := by
        cases result : session.hub.createStream remote window needsSyn with
        | ok outcome => exact ⟨_, _, _, rfl⟩
        | error error =>
            exact absurd ((session.hub.createStream_fails_iff remote window needsSyn).mp
              ⟨error, result⟩) room
      have after : session.hub.step (.createStream remote window needsSyn) = hub' := by
        simp only [Hub.step, created]
      obtain ⟨-, rfl, nextKey, rfl, ends, -⟩ := Hub.createStream_eq_ok created
      rw [after] at step
      have free := (paired.opens related unused (by rw [step, nextKey]; exact Nat.lt_succ_self _)
        (by rw [step, ends, Function.update_self]; exact chosen)).1
      by_contra registered
      obtain ⟨handle, found⟩ := Option.ne_none_iff_exists'.mp registered
      exact free handle.stream (Or.inl ⟨handle, found, rfl⟩)
  | _ => trivial

theorem act (paired : Paired id peer session) (related : Related peer session)
    (unused : opensUnusedAt id peer session op) : Paired id peer (session.step op) := by
  have lawful := related.linked.lawful
  have opens := paired.opens related unused
  have late {key : StreamKey} (live : LiveAt (session.step op) peer id key) :=
    live.of_send lawful paired.owned
  constructor
  case ownedPeer => exact paired.ownedPeer
  case owned =>
    rcases (session.step_spec lawful.sending op).hub with same | ⟨hubOp, step, -⟩
    · exact same ▸ paired.owned
    · rw [step]
      exact paired.owned.step lawful.addressed (paired.idle related unused step)
  case solePeer =>
    intro key' other' live live'
    exact paired.solePeer (live.of_receive lawful) (live'.of_receive lawful)
  case sole =>
    intro key other live live'
    rcases late live with old | ⟨rfl, opened, own⟩ <;> rcases late live' with old' | ⟨is, opened', own'⟩
    · exact paired.sole old old'
    · subst is
      exact absurd old ((opens opened' own').1 key)
    · exact absurd old' ((opens opened own).1 other)
    · exact is.symm
  case twins =>
    intro key' key live' live
    rcases late live with old | ⟨rfl, opened, own⟩
    · have twins := paired.twins (live'.of_receive lawful) old
      exact (related.twins_step op (related.twins_id twins).2.1).mpr twins
    · exact (opens opened own).2 key' (live'.of_receive lawful)

theorem transport (paired : Paired id peer session) (count : Nat) :
    Paired id (peer.handOver count) (session.step (.recv (peer.tx.take count))) :=
  { paired with }

theorem new (id : StreamID) (first second : SessionBuilder) (client client' : Bool) :
    Paired id (Session.new first.window first.acceptQueueSize first.streamLimit client)
      (Session.new second.window second.acceptQueueSize second.streamLimit client') := by
  have dead (one other : SessionBuilder) (client client' : Bool) (key : StreamKey) :
      ¬ LiveAt (Session.new one.window one.acceptQueueSize one.streamLimit client)
        (Session.new other.window other.acceptQueueSize other.streamLimit client') id key := by
    rintro (⟨handle, found, -⟩ | ⟨frame, flies, -⟩)
    · simp [Session.new, Hub.new, Hub.getStream] at found
    · simp [inFlight, Session.new, Hub.new] at flies
  exact ⟨.new _ _ _, .new _ _ _, fun live => absurd live (dead first second _ _ _),
    fun live => absurd live (dead second first _ _ _), fun live => absurd live (dead first second _ _ _)⟩

end Paired

end Session

open Session in
/-- In every run the accepted streams come from SYNs of the other side. -/
theorem Connection.related_of_reaches {admits : Connection → ConnectionOp → Prop}
    {builder : Side → SessionBuilder} {conn : Connection}
    (runs : Reaches Connection.step admits (Connection.new builder) conn) (side : Side) :
    Related (conn side.other) (conn side) := by
  have births : Births (conn side.other) (conn side) ∧ Births (conn side) (conn side.other) := by
    refine pairs_invariant Linked (fun peer session => Births peer session ∧ Births session peer)
      (fun _ _ _ => True) (fun _ => trivial) linked_of_reaches And.symm ?_ ?_ ?_ runs side
    · intro side
      exact ⟨.new (builder side.other) (builder side) _ _,
        .new (builder side) (builder side.other) _ _⟩
    · intro peer session op _ _ linked _ ⟨forth, back⟩
      exact ⟨forth.receive linked op, back.send linked.lawful op⟩
    · intro peer session count _ ⟨forth, back⟩
      exact ⟨{ forth with }, { back with }⟩
  exact ⟨linked_of_reaches runs side, births.1, births.2⟩

open Session in
theorem Connection.synsAccepted_of_reaches {admits : Connection → ConnectionOp → Prop}
    {builder : Side → SessionBuilder} {conn : Connection}
    (runs : Reaches Connection.step admits (Connection.new builder) conn) (side : Side) :
    (conn side).SynsAccepted := by
  have both : (conn side.other).SynsAccepted ∧ (conn side).SynsAccepted := by
    refine pairs_invariant Linked (fun peer session => peer.SynsAccepted ∧ session.SynsAccepted)
      (fun _ _ _ => True) (fun _ => trivial) linked_of_reaches And.symm ?_ ?_ ?_ runs side
    · intro side
      exact ⟨.new _ _ _ _, .new _ _ _ _⟩
    · intro peer session op _ _ linked linked' ⟨forth, back⟩
      exact ⟨forth, back.step linked linked'⟩
    · intro peer session count _ ⟨forth, back⟩
      exact ⟨{ forth with }, { back with }⟩
  exact both.2

open Session in
/-- If an id is not opened again while it is live, its streams are paired in every
run. -/
theorem Connection.paired_of_reaches {admits : Connection → ConnectionOp → Prop}
    {builder : Side → SessionBuilder} {conn : Connection} {id : StreamID}
    (unused : ∀ {conn side op}, admits conn (.act side op) →
      Session.opensUnusedAt id (conn side.other) (conn side) op)
    (runs : Reaches Connection.step admits (Connection.new builder) conn) (side : Side) :
    Paired id (conn side.other) (conn side) := by
  refine pairs_invariant Related (Paired id) (Session.opensUnusedAt id) unused
    related_of_reaches Paired.symm ?_ ?_ ?_ runs side
  · intro side
    exact .new id (builder side.other) (builder side) _ _
  · intro peer session op _ unused related _ paired
    exact paired.act related unused
  · intro peer session count _ paired
    exact paired.transport count

end Muxado

end NgrokRust
