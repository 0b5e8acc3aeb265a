import Keyring.Queue.Exchange

/-!
# One caller at a time

The schedule of a single thread that makes the calls of all clients.  The
worker has its turns only while the thread waits, but then until it has nothing
left to do.  The thread waits for room in a full queue and for the answer to a
flush.  It also waits after a round of calls that never made it wait, so that
the worker gets its turns.
-/

namespace Keyring
namespace Queue
namespace Exchange

variable {σ : Type}

/-- Turns of the worker until its queue is empty: one to start, one for each
request, and one to stop. -/
def drain (backend : Backend σ) (x : Exchange σ) : Exchange σ × List Occurrence :=
  x.run backend (List.replicate (x.queue.length + 2) .work)

def firstLive? (x : Exchange σ) : Option Nat :=
  x.clients.findIdx? id

def ending? (x : Exchange σ) : Option Ending :=
  match x.worker with
  | .ended ending => some ending
  | _ => none

end Exchange

structure Thread (σ : Type) where
  exchange : Exchange σ
  /-- Calls that are left of this round. -/
  credit : Nat

namespace Thread

variable {σ : Type}

def roundLength : Nat := 128

def start (exchange : Exchange σ) : Thread σ :=
  ⟨exchange, roundLength⟩

def act (backend : Backend σ) (t : Thread σ) (actions : List (Action σ)) :
    Thread σ × List Occurrence :=
  let moved := t.exchange.run backend actions
  (⟨moved.1, t.credit⟩, moved.2)

/-- Waits while the worker does all there is to do, and starts a new round. -/
def wait (backend : Backend σ) (t : Thread σ) : Thread σ × List Occurrence :=
  let drained := t.exchange.drain backend
  (start drained.1, drained.2)

def prepare (backend : Backend σ) (t : Thread σ) : Thread σ × List Occurrence :=
  if t.credit = 0 then t.wait backend else (t, [])

/-- Waits for room if the call was not accepted at once. -/
def await (backend : Backend σ) (t : Thread σ) (id : Nat) : Thread σ × List Occurrence :=
  if t.exchange.waiting.any fun call => call.id == id then
    let waited := t.wait backend
    let entered := waited.1.act backend [.enter id]
    (entered.1, waited.2 ++ entered.2)
  else (t, [])

def spend (t : Thread σ) : Thread σ :=
  { t with credit := t.credit - 1 }

/-- Makes a call and waits for its answer. -/
def ask (backend : Backend σ) (t : Thread σ) (client : Nat) (request : Request) :
    Thread σ × List Occurrence :=
  let id := t.exchange.nextId
  let ready := t.prepare backend
  let called := ready.1.act backend [.call client request, .enter id]
  let accepted := called.1.await backend id
  let answered := if request = .flush then accepted.1.wait backend else (accepted.1, [])
  (answered.1.spend, ready.2 ++ called.2 ++ accepted.2 ++ answered.2)

/-- Waits until all that was accepted has been applied, or until the worker has
ended if no client is left to ask. -/
def settle (backend : Backend σ) (t : Thread σ) : Thread σ × List Occurrence :=
  match t.exchange.firstLive? with
  | some client => t.ask backend client .flush
  | none => t.wait backend

/-- Drops every client and waits for the end of the worker. -/
def finish (backend : Backend σ) (t : Thread σ) : Thread σ × List Occurrence :=
  let dropped := t.act backend ((List.range t.exchange.clients.length).map .drop)
  let waited := dropped.1.wait backend
  (waited.1, dropped.2 ++ waited.2)

end Thread
end Queue
end Keyring
