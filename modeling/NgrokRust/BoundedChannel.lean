import Mathlib.Data.List.Infix

/-!
# Bounded single-consumer channels

A polled queue in the manner of an asynchronous `mpsc` channel: one sender, one
receiver, and a buffer bound that the sender may exceed by the one message its
own slot guarantees.  Either end can close the channel.  Messages that were
accepted before the sender closed it are still delivered; a receiver that goes
away discards them.

Nothing here depends on what the messages are.
-/

/-- Result of polling an operation that may have to wait. -/
inductive Poll (α : Type*) where
  | pending
  | ready (value : α)
deriving DecidableEq, Repr

abbrev Waker := Nat

inductive SendError where
  | disconnected
  | full
deriving DecidableEq, Repr

/-- The shared state of a channel. `recvTask` is the waker left by the last poll
of the receiver that found nothing, and `receiverAlive` records whether the
receiving half still exists. -/
structure Channel (α : Type*) where
  buffer : Nat
  queue : List α
  isOpen : Bool
  receiverAlive : Bool
  recvTask : Option Waker
deriving DecidableEq, Repr

namespace Channel

variable {α : Type*}

def new (buffer : Nat) : Channel α where
  buffer := buffer
  queue := []
  isOpen := true
  receiverAlive := true
  recvTask := none

def pollReady (channel : Channel α) : Poll (Except SendError Unit) :=
  if channel.isOpen then
    if channel.queue.length ≤ channel.buffer then .ready (.ok ()) else .pending
  else .ready (.error .disconnected)

def push (channel : Channel α) (message : α) : Channel α :=
  { channel with queue := channel.queue ++ [message], recvTask := none }

def startSend (channel : Channel α) (message : α) : Except SendError (Channel α) :=
  if channel.isOpen then
    if channel.queue.length ≤ channel.buffer then .ok (channel.push message)
    else .error .full
  else .error .disconnected

/-- Flushing waits for the parked sender; a disconnected receiver counts as
flushed. -/
def pollFlush (channel : Channel α) : Poll (Except SendError Unit) :=
  if channel.isOpen then
    if channel.queue.length ≤ channel.buffer then .ready (.ok ()) else .pending
  else .ready (.ok ())

/-- Take the next message; `ready none` once the channel is closed and drained. -/
def pollNext (channel : Channel α) (waker : Waker) : Poll (Option α) × Channel α :=
  match channel.queue with
  | message :: rest => (.ready (some message), { channel with queue := rest })
  | [] =>
      if channel.isOpen then (.pending, { channel with recvTask := some waker })
      else (.ready none, channel)

def close (channel : Channel α) : Channel α :=
  { channel with isOpen := false, recvTask := none }

def dropReceiver (channel : Channel α) : Channel α :=
  { channel with
    queue := [], isOpen := false, receiverAlive := false, recvTask := none }

@[simp] theorem new_queue (buffer : Nat) : (new buffer : Channel α).queue = [] := rfl
@[simp] theorem new_isOpen (buffer : Nat) : (new buffer : Channel α).isOpen = true := rfl
@[simp] theorem new_receiverAlive (buffer : Nat) :
    (new buffer : Channel α).receiverAlive = true := rfl
@[simp] theorem new_buffer (buffer : Nat) : (new buffer : Channel α).buffer = buffer := rfl

@[simp] theorem push_queue (channel : Channel α) (message : α) :
    (channel.push message).queue = channel.queue ++ [message] := rfl
@[simp] theorem push_isOpen (channel : Channel α) (message : α) :
    (channel.push message).isOpen = channel.isOpen := rfl
@[simp] theorem push_receiverAlive (channel : Channel α) (message : α) :
    (channel.push message).receiverAlive = channel.receiverAlive := rfl
@[simp] theorem push_buffer (channel : Channel α) (message : α) :
    (channel.push message).buffer = channel.buffer := rfl

@[simp] theorem close_queue (channel : Channel α) : channel.close.queue = channel.queue := rfl
@[simp] theorem close_isOpen (channel : Channel α) : channel.close.isOpen = false := rfl
@[simp] theorem close_receiverAlive (channel : Channel α) :
    channel.close.receiverAlive = channel.receiverAlive := rfl

@[simp] theorem dropReceiver_queue (channel : Channel α) : channel.dropReceiver.queue = [] := rfl
@[simp] theorem dropReceiver_isOpen (channel : Channel α) :
    channel.dropReceiver.isOpen = false := rfl
@[simp] theorem dropReceiver_receiverAlive (channel : Channel α) :
    channel.dropReceiver.receiverAlive = false := rfl

/-- Nothing can happen between a successful readiness poll and the send that
follows it in the same poll. -/
theorem startSend_of_pollReady {channel : Channel α} (message : α)
    (isReady : channel.pollReady = .ready (.ok ())) :
    channel.startSend message = .ok (channel.push message) := by
  unfold pollReady at isReady
  unfold startSend
  split at isReady
  · split at isReady
    · simp_all
    · cases isReady
  · cases isReady

theorem isOpen_of_pollReady {channel : Channel α}
    (isReady : channel.pollReady = .ready (.ok ())) : channel.isOpen = true := by
  cases isOpen : channel.isOpen with
  | true => rfl
  | false => simp [pollReady, isOpen] at isReady

theorem pollNext_of_cons {channel : Channel α} {message : α} {rest : List α}
    (queue : channel.queue = message :: rest) (waker : Waker) :
    channel.pollNext waker = (.ready (some message), { channel with queue := rest }) := by
  simp [pollNext, queue]

theorem pollNext_of_waiting {channel : Channel α} (queue : channel.queue = [])
    (isOpen : channel.isOpen = true) (waker : Waker) :
    channel.pollNext waker = (.pending, { channel with recvTask := some waker }) := by
  simp [pollNext, queue, isOpen]

theorem pollNext_of_drained {channel : Channel α} (queue : channel.queue = [])
    (closed : channel.isOpen = false) (waker : Waker) :
    channel.pollNext waker = (.ready none, channel) := by
  simp [pollNext, queue, closed]

end Channel
