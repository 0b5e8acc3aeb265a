import Keyring.Fault
import Keyring.Mode

/-!
# Configuration

Three settings: the set that is active at the start, the policy of writes that
name none, and the room in a client's queue.  A queue without room is the one
value that is refused.
-/

namespace Keyring

def Config.defaultQueueCapacity : UInt64 := 64

structure Config where
  startTemporary : Bool := false
  defaultPolicy : WritePolicy := .overwrite
  queueCapacity : UInt64 := Config.defaultQueueCapacity
  deriving DecidableEq, Repr

instance : Inhabited Config := ⟨{}⟩

namespace Config

/-- The variable that overrides the initial mode. -/
def variableName : String := "CREDCACHE_TEMP_MODE"

def fileName : String := "credcache.toml"

def directoryName : String := ".credcache"

/-- The file that is read when no path is given: it lies in the home directory. -/
def standardPath (home : String) : String :=
  (if home.endsWith "/" then home else home ++ "/") ++ directoryName ++ "/" ++ fileName

def initialMode (config : Config) : Mode :=
  .ofTemp config.startTemporary

end Config

inductive Setting where
  | startTemporary
  | defaultPolicy
  | queueCapacity
  deriving DecidableEq, Repr

namespace Setting

def name : Setting → String
  | .startTemporary => "start_in_temp_mode"
  | .defaultPolicy => "default_policy"
  | .queueCapacity => "client_queue_capacity"

def all : List Setting := [.startTemporary, .defaultPolicy, .queueCapacity]

def ofName? (text : String) : Option Setting :=
  all.find? fun setting => setting.name == text

theorem ofName?_name (setting : Setting) : ofName? setting.name = some setting := by
  cases setting <;> decide

end Setting

structure Draft where
  startTemporary : Option Bool := none
  defaultPolicy : Option WritePolicy := none
  queueCapacity : Option UInt64 := none
  deriving DecidableEq, Repr

namespace Draft

def has (draft : Draft) : Setting → Bool
  | .startTemporary => draft.startTemporary.isSome
  | .defaultPolicy => draft.defaultPolicy.isSome
  | .queueCapacity => draft.queueCapacity.isSome

def complete (draft : Draft) : Config where
  startTemporary := draft.startTemporary.getD false
  defaultPolicy := draft.defaultPolicy.getD .overwrite
  queueCapacity := draft.queueCapacity.getD Config.defaultQueueCapacity

end Draft
end Keyring
