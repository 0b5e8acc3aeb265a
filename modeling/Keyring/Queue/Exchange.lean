import Keyring.Queue.Backend

/-!
# The queue between clients and a worker

Clients are handles on one bounded queue.  A call first waits to be accepted,
which takes room in the queue; it is then answered, except that a flush is
answered when the worker comes to it.  The worker takes requests in the order
in which they were accepted.  It ends when every client is dropped and the
queue is empty, when its backend crashes, or when it is aborted; whatever has
not been answered by then is answered with the news that the client is closed.

An exchange moves by actions, which may come in any order.  What can be
observed of a move is a list of occurrences.
-/

namespace Keyring
namespace Queue

/-- A call of a client.  Its number is its own. -/
structure Call where
  id : Nat
  client : Nat
  request : Request
  deriving DecidableEq, Repr

inductive Ending where
  | finished
  | cancelled
  | panicked
  deriving DecidableEq, Repr

namespace Ending

def name : Ending → String
  | .finished => "finished"
  | .cancelled => "cancelled"
  | .panicked => "panicked"

end Ending

inductive Worker where
  /-- It has not had its first turn. -/
  | ready
  | running
  | ended (ending : Ending)
  deriving DecidableEq, Repr

structure Exchange (σ : Type) where
  capacity : Nat
  cache : σ
  /-- Accepted and not yet taken by the worker, in the order of acceptance. -/
  queue : List Call := []
  /-- Not yet accepted. -/
  waiting : List Call := []
  /-- Flushes that were accepted and whose callers wait for the answer. -/
  listening : List Call := []
  worker : Worker := .ready
  /-- Whether each client is still there. -/
  clients : List Bool := [true]
  nextId : Nat := 0

inductive Action (σ : Type) where
  | call (client : Nat) (request : Request)
  | enter (id : Nat)
  /-- The caller stops waiting. -/
  | giveUp (id : Nat)
  | clone (client : Nat)
  | drop (client : Nat)
  /-- A turn of the worker. -/
  | work
  | abort
  /-- Somebody else changes what the worker writes to. -/
  | outside (cache : σ) (events : List Event)

inductive Occurrence where
  | accepted (call : Call)
  | applied (call : Call)
  | answered (call : Call) (result : Except Fault Unit)
  | logged (event : Event)
  | ended (ending : Ending)

namespace Exchange

variable {σ : Type}

/-- The greatest room that a queue can have. -/
def maxCapacity : Nat := Nat.pow 2 61 - 1

/-- A new exchange with one client.  No room counts as room for one. -/
def spawn (cache : σ) (capacity : Nat) : Option (Exchange σ) :=
  if max capacity 1 ≤ maxCapacity then some { capacity := max capacity 1, cache } else none

/-- A new exchange with the room that a configuration asks for. -/
def ofConfig (cache : σ) (config : Config) : Option (Exchange σ) :=
  spawn cache config.queueCapacity.toNat

def isClosed (x : Exchange σ) : Bool :=
  match x.worker with
  | .ended _ => true
  | _ => false

def isLive (x : Exchange σ) (client : Nat) : Bool :=
  x.clients[client]?.getD false

def hasRoom (x : Exchange σ) : Bool :=
  x.queue.length < x.capacity

/-- Whether a client has a call that is not answered. -/
def isBusy (x : Exchange σ) (client : Nat) : Bool :=
  (x.waiting ++ x.listening).any fun call => call.client == client

def accept (x : Exchange σ) (call : Call) : Exchange σ × List Occurrence :=
  let x := { x with
    queue := x.queue ++ [call]
    waiting := x.waiting.filter fun other => other.id != call.id }
  if call.request = .flush then
    ({ x with listening := x.listening ++ [call] }, [.accepted call])
  else (x, [.accepted call, .answered call (.ok ())])

/-- Ends the worker.  The queue is discarded, and nobody is left waiting. -/
def close (x : Exchange σ) (ending : Ending) : Exchange σ × List Occurrence :=
  ({ x with queue := [], waiting := [], listening := [], worker := .ended ending },
    .ended ending ::
      (x.listening ++ x.waiting).map fun call => .answered call (.error .clientClosed))

def serve (backend : Backend σ) (x : Exchange σ) (call : Call) :
    Exchange σ × List Occurrence :=
  let reply := backend.apply x.cache call.request
  let logs := reply.events.map Occurrence.logged
  if reply.answer = .crashed then
    let closed := close { x with cache := reply.next } .panicked
    (closed.1, logs ++ closed.2)
  else
    let answers := (x.listening.filter fun other => other.id == call.id).map
      fun listener => Occurrence.answered listener (.ok ())
    ({ x with
        cache := reply.next
        listening := x.listening.filter fun other => other.id != call.id },
      logs ++ .applied call :: answers)

/-- A turn of the worker: it starts, applies the next request, or stops. -/
def turn (backend : Backend σ) (x : Exchange σ) : Exchange σ × List Occurrence :=
  match x.worker with
  | .ready => ({ x with worker := .running }, [.logged .workerStarted])
  | .ended _ => (x, [])
  | .running =>
    match x.queue with
    | call :: rest => serve backend { x with queue := rest } call
    | [] =>
      if x.clients.any id then (x, [])
      else
        let closed := close x .finished
        (closed.1, .logged .workerStopped :: closed.2)

def step (backend : Backend σ) (x : Exchange σ) : Action σ → Exchange σ × List Occurrence
  | .call client request =>
    if x.isLive client then
      let call : Call := ⟨x.nextId, client, request⟩
      let x := { x with nextId := x.nextId + 1 }
      if x.isClosed then (x, [.answered call (.error .clientClosed)])
      else ({ x with waiting := x.waiting ++ [call] }, [])
    else (x, [])
  | .enter id =>
    match x.waiting.find? fun call => call.id == id with
    | some call => if x.hasRoom then x.accept call else (x, [])
    | none => (x, [])
  | .giveUp id =>
    ({ x with
        waiting := x.waiting.filter fun call => call.id != id
        listening := x.listening.filter fun call => call.id != id }, [])
  | .clone client =>
    if x.isLive client then ({ x with clients := x.clients ++ [true] }, []) else (x, [])
  | .drop client =>
    if x.isLive client && !x.isBusy client then
      ({ x with clients := x.clients.set client false }, [])
    else (x, [])
  | .work => turn backend x
  | .abort => if x.isClosed then (x, []) else close x .cancelled
  | .outside cache events => ({ x with cache }, events.map .logged)

def run (backend : Backend σ) (x : Exchange σ) : List (Action σ) → Exchange σ × List Occurrence
  | [] => (x, [])
  | action :: rest =>
    let moved := step backend x action
    let others := run backend moved.1 rest
    (others.1, moved.2 ++ others.2)

end Exchange

-- What an observer reads off occurrences.
namespace Occurrence

def accepted? : Occurrence → Option Call
  | .accepted call => some call
  | _ => none

def applied? : Occurrence → Option Call
  | .applied call => some call
  | _ => none

def event? : Occurrence → Option Event
  | .logged event => some event
  | _ => none

def result? (id : Nat) : Occurrence → Option (Except Fault Unit)
  | .answered call result => if call.id = id then some result else none
  | _ => none

end Occurrence
end Queue
end Keyring
