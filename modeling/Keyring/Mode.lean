/-!
# Routing modes and write policies

A store keeps two sets of credentials and directs every call to one of them.
The mode says which; the policy says what a write does to a key that is
already present.
-/

namespace Keyring

/-- The set that reads and writes address. -/
inductive Mode where
  | persistent
  | temporary
  deriving DecidableEq, Repr

instance : Inhabited Mode := ⟨.persistent⟩

namespace Mode

/-- The mode that a `temp` flag asks for. -/
def ofTemp (temp : Bool) : Mode :=
  if temp then .temporary else .persistent

def isTemporary (mode : Mode) : Bool :=
  mode == .temporary

def other : Mode → Mode
  | .persistent => .temporary
  | .temporary => .persistent

/-- The name in texts, logs and documents. -/
def name : Mode → String
  | .persistent => "persistent"
  | .temporary => "temporary"

/-- The name in diagnostic output. -/
def label : Mode → String
  | .persistent => "Persistent"
  | .temporary => "Temporary"

def all : List Mode := [.persistent, .temporary]

def ofName? (text : String) : Option Mode :=
  all.find? fun mode => mode.name == text

theorem ofName?_name (mode : Mode) : ofName? mode.name = some mode := by
  cases mode <;> decide

@[simp] theorem isTemporary_ofTemp (temp : Bool) : (ofTemp temp).isTemporary = temp := by
  cases temp <;> rfl

end Mode

/-- What a write does when its key is already present. -/
inductive WritePolicy where
  /-- The last write wins. -/
  | overwrite
  /-- The first write wins. -/
  | insertIfAbsent
  deriving DecidableEq, Repr

instance : Inhabited WritePolicy := ⟨.overwrite⟩

namespace WritePolicy

/-- The policy that an `overwrite` flag asks for. -/
def ofOverwrite (overwrite : Bool) : WritePolicy :=
  if overwrite then .overwrite else .insertIfAbsent

def name : WritePolicy → String
  | .overwrite => "overwrite"
  | .insertIfAbsent => "insert_if_absent"

/-- The name in diagnostic output and in logs. -/
def label : WritePolicy → String
  | .overwrite => "Overwrite"
  | .insertIfAbsent => "InsertIfAbsent"

def all : List WritePolicy := [.overwrite, .insertIfAbsent]

def ofName? (text : String) : Option WritePolicy :=
  all.find? fun policy => policy.name == text

theorem ofName?_name (policy : WritePolicy) : ofName? policy.name = some policy := by
  cases policy <;> decide

end WritePolicy
end Keyring
