import Keyring.Queue.Backend

/-!
# A backend that keeps a record

The recorder stores nothing.  It writes down what it is asked, answers as it
was told to, and can be told to fail, or to crash on one key.
-/

namespace Keyring
namespace Queue

structure Recorder where
  calls : List Request := []
  failPut : Bool := false
  failRemove : Bool := false
  failSwitch : Bool := false
  failClear : Bool := false
  putAnswer : Bool := true
  /-- The key at which a put crashes, before it is written down. -/
  crashKey : Option String := none
  deriving DecidableEq, Repr

namespace Recorder

def note (recorder : Recorder) (request : Request) : Recorder :=
  { recorder with calls := recorder.calls ++ [request] }

def answer {α : Type} (recorder : Recorder) (request : Request) (fails : Bool) (fault : Fault)
    (value : α) : Reply Recorder (Outcome α) :=
  ⟨if fails then .failed fault else .done value, recorder.note request, []⟩

def backend : Backend Recorder where
  put recorder key credential policy :=
    if recorder.crashKey = some key then ⟨.crashed, recorder, []⟩
    else recorder.answer (.put key credential policy) recorder.failPut
      (.insertionFailed "backend full") recorder.putAnswer
  remove recorder key :=
    recorder.answer (.remove key) recorder.failRemove (.lockPoisoned "backend gone") ()
  setTemporary recorder temp :=
    recorder.answer (.setTemporary temp) recorder.failSwitch (.configuration "mode refused") ()
  clearTemporary recorder :=
    recorder.answer .clearTemporary recorder.failClear .clientClosed ()

/-- A request on one line of the record. -/
def line : Request → String
  | .put key credential policy =>
    " ".intercalate
      ["put", key, credential.username, credential.domain, credential.secret.expose, policy.label]
  | .remove key => "remove " ++ key
  | .setTemporary temp => if temp then "temp true" else "temp false"
  | .clearTemporary => "clear"
  | .flush => "flush"

def lines (recorder : Recorder) : List String :=
  recorder.calls.map line

end Recorder
end Queue
end Keyring
