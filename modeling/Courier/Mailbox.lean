import Courier.Message
import Courier.Span

/-!
# A mailbox and those who wait at it

A mailbox: messages in order of arrival, and the calls that wait for one. Each event below happens
under the mailbox's lock. A call that finds no message falls asleep; a message wakes one sleeper,
which has to take the lock again and may find that another call was faster.
-/

namespace Courier

/-- A call that waits, and the time at which it gives up. -/
structure Waiter where
  id : Nat
  deadline : Option Instant
  deriving DecidableEq

structure Mailbox where
  pending : List Message
  asleep : List Waiter
  /-- Sleepers that a message has woken and that have not run yet. -/
  woken : List Waiter
  deriving DecidableEq

namespace Mailbox

def empty : Mailbox := ⟨[], [], []⟩

/-- What may happen to a mailbox. -/
inductive Event where
  /-- A message arrives; `chosen` is the place of the sleeper that it wakes. -/
  | push (m : Message) (chosen : Nat)
  | arrive (w : Waiter)
  /-- A woken call runs. -/
  | resume (id : Nat)
  /-- A sleeper runs without having been woken. -/
  | stir (id : Nat)
  /-- A sleeper runs because its deadline has passed. -/
  | expire (id : Nat)

/-- The answer to a call: a message, or none in time. -/
structure Answer where
  id : Nat
  message : Option Message
  deriving DecidableEq

def push (b : Mailbox) (m : Message) (chosen : Nat) : Mailbox :=
  match b.asleep[chosen % b.asleep.length]? with
  | none => { b with pending := b.pending ++ [m] }
  | some w => ⟨b.pending ++ [m], b.asleep.erase w, b.woken ++ [w]⟩

/-- A call with the lock in hand takes the first message or falls asleep. -/
def arrive (b : Mailbox) (w : Waiter) : Mailbox × List Answer :=
  match b.pending with
  | m :: rest => ({ b with pending := rest }, [⟨w.id, some m⟩])
  | [] => ({ b with asleep := b.asleep ++ [w] }, [])

/-- A call past its deadline takes the first message or gives up. -/
def giveUp (b : Mailbox) (w : Waiter) : Mailbox × List Answer :=
  match b.pending with
  | m :: rest => ({ b with pending := rest }, [⟨w.id, some m⟩])
  | [] => (b, [⟨w.id, none⟩])

/-- The mailbox after an event and the calls it answers, if the event can happen at this time. -/
def step? (now : Instant) (b : Mailbox) : Event → Option (Mailbox × List Answer)
  | .push m chosen => some (b.push m chosen, [])
  | .arrive w => some (b.arrive w)
  | .resume id => do
    let w ← b.woken.find? (·.id = id)
    return { b with woken := b.woken.erase w }.arrive w
  | .stir id => do
    let w ← b.asleep.find? (·.id = id)
    return { b with asleep := b.asleep.erase w }.arrive w
  | .expire id => do
    let w ← b.asleep.find? (·.id = id)
    let deadline ← w.deadline
    if deadline ≤ now then return { b with asleep := b.asleep.erase w }.giveUp w else none

/-- The result of a call with nothing else going on: a message that is there, or none once the
time is up. Without a deadline the call would wait for ever. -/
def take? (b : Mailbox) (now : Instant) (timeout : Option Span) :
    Option (Option Message × Mailbox) :=
  let deadline := timeout >>= now.after?
  match b.arrive ⟨0, deadline⟩ with
  | (b, answer :: _) => some (answer.message, b)
  | (b, []) => do
    let (b, answers) ← b.step? (← deadline) (.expire 0)
    return (← answers.head?.map (·.message), b)

/-- Lets every woken call run, in the order in which they were woken. -/
def resumeAll (b : Mailbox) : Mailbox × List Answer :=
  b.woken.foldl
    (fun (b, answers) w =>
      match b.step? .origin (.resume w.id) with
      | some (b, more) => (b, answers ++ more)
      | none => (b, answers))
    (b, [])

/-- The messages that calls without a deadline receive when all wait before the messages come. -/
def compete (b : Mailbox) (calls : Nat) (messages : List Message) : Mailbox × List Message :=
  let (b, early) := (List.range calls).foldl
    (fun (b, answers) id =>
      let (b, more) := b.arrive ⟨id, none⟩
      (b, answers ++ more))
    (b, [])
  let (b, late) := (messages.foldl (fun b m => b.push m 0) b).resumeAll
  (b, (early ++ late).filterMap (·.message))

end Mailbox

end Courier
