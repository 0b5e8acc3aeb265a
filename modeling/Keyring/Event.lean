import Keyring.Fault
import Keyring.Mode

/-!
# Diagnostic events

Every layer reports what it does as events.  An event is a typed record; its
level, message and fields are read off it, so a log line carries exactly what
the constructor holds.  No constructor has room for a credential.
-/

namespace Keyring

inductive Level where
  | error
  | warn
  | info
  | debug
  | trace
  deriving DecidableEq, Repr

namespace Level

def name : Level → String
  | .error => "ERROR"
  | .warn => "WARN"
  | .info => "INFO"
  | .debug => "DEBUG"
  | .trace => "TRACE"

/-- How talkative a level is: the higher, the more detail. -/
def verbosity : Level → Nat
  | .error => 1
  | .warn => 2
  | .info => 3
  | .debug => 4
  | .trace => 5

end Level

inductive Event where
  | storeOpened (mode : Mode) (policy : WritePolicy)
  | found (key : String) (mode : Mode)
  | missed (key : String) (mode : Mode)
  | storing (key : String) (mode : Mode) (policy : WritePolicy)
  | keptExisting (key : String) (mode : Mode)
  | removed (key : String) (mode : Mode)
  | switching (source target : Mode)
  | clearedTemporary (count : Nat)
  | recoveredForRead
  | workerStarted
  | workerStopped
  | queuedNotStored (key : String)
  | putFailed (key : String) (fault : Fault)
  | removeFailed (key : String) (fault : Fault)
  | switchFailed (temp : Bool) (fault : Fault)
  | clearFailed (fault : Fault)
  | loadFailed (summary : String)
  | usingDefault (path : String)
  | flagIgnored (variableName value : String)
  deriving DecidableEq, Repr

inductive FieldValue where
  | text (value : String)
  | count (value : Nat)
  | flag (value : Bool)
  deriving DecidableEq, Repr

namespace Event

def level : Event → Level
  | .storeOpened .. | .switching .. | .clearedTemporary .. => .info
  | .recoveredForRead | .putFailed .. | .removeFailed .. | .switchFailed ..
  | .clearFailed .. | .loadFailed .. | .flagIgnored .. => .warn
  | .found .. | .missed .. | .storing .. | .keptExisting .. | .removed ..
  | .workerStarted | .workerStopped | .queuedNotStored .. | .usingDefault .. => .debug

def message : Event → String
  | .storeOpened .. => "Initializing credential store"
  | .found .. => "Credential found"
  | .missed .. => "No credential found"
  | .storing .. => "Storing credential"
  | .keptExisting .. => "Credential already present, keeping existing"
  | .removed .. => "Removed credential"
  | .switching .. => "Switching credential cache mode"
  | .clearedTemporary .. => "Cleared temporary credentials"
  | .recoveredForRead => "Credential store lock poisoned, recovering for read"
  | .workerStarted => "Credential cache worker started"
  | .workerStopped => "Credential cache worker stopped"
  | .queuedNotStored .. => "Queued credential not stored, key present"
  | .putFailed .. => "Failed to store queued credential"
  | .removeFailed .. => "Failed to remove queued credential"
  | .switchFailed .. => "Failed to switch credential cache mode"
  | .clearFailed .. => "Failed to clear temporary credentials"
  | .loadFailed summary => "Failed to load cache config: " ++ summary
  | .usingDefault .. => "Using default cache config"
  | .flagIgnored .. => "Ignoring unrecognized flag value"

/-- The fields in the order in which they are written. -/
def fields : Event → List (String × FieldValue)
  | .storeOpened mode policy => [("mode", .text mode.name), ("policy", .text policy.label)]
  | .found key mode | .missed key mode | .keptExisting key mode | .removed key mode =>
    [("key", .text key), ("mode", .text mode.name)]
  | .storing key mode policy =>
    [("key", .text key), ("mode", .text mode.name), ("policy", .text policy.label)]
  | .switching source target => [("from", .text source.name), ("to", .text target.name)]
  | .clearedTemporary count => [("count", .count count)]
  | .recoveredForRead | .workerStarted | .workerStopped | .loadFailed _ => []
  | .queuedNotStored key => [("key", .text key)]
  | .putFailed key fault | .removeFailed key fault =>
    [("key", .text key), ("error", .text fault.message)]
  | .switchFailed temp fault => [("temp", .flag temp), ("error", .text fault.message)]
  | .clearFailed fault => [("error", .text fault.message)]
  | .usingDefault path => [("path", .text path)]
  | .flagIgnored variableName value => [("var", .text variableName), ("value", .text value)]

end Event

/-- An event as it stands in a log. -/
structure LogRecord where
  level : Level
  message : String
  fields : List (String × FieldValue) := []
  deriving DecidableEq, Repr

def Event.record (event : Event) : LogRecord :=
  ⟨event.level, event.message, event.fields⟩

/-- What a call leaves behind: its answer, the state after it and the events it reported. -/
structure Reply (σ α : Type) where
  answer : α
  next : σ
  events : List Event := []

end Keyring
