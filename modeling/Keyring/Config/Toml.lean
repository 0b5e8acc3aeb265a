import Keyring.Config.Complaint
import Keyring.Config.Flag
import Keyring.Toml.Document
import Keyring.Toml.Excerpt

/-!
# Configuration as TOML

The settings are keys of the document's root table; other keys are passed over.
The settings are looked at in the order of the document, and the first that
does not fit is reported.  The mode flag is applied before the configuration
is checked.
-/

namespace Keyring
namespace Toml

/-- Numbers in complaints about documents have no exponent. -/
def numberLayout : NumberLayout where
  tie := .up
  positional := none

/-- A complaint with the stretch of text that it is about. -/
structure Finding where
  complaint : Complaint
  mark : Span
  deriving DecidableEq, Repr

def Item.found : Item → Found
  | .boolean value => .boolean value
  | .integer value => .integer value
  | .real value => .real value
  | .text value => .text value
  | .moment _ | .table .. => .map
  | .array _ | .tables _ => .sequence

def Item.kind : Item → String
  | .boolean _ => "boolean"
  | .integer _ => "integer"
  | .real _ => "float"
  | .text _ => "string"
  | .moment _ => "datetime"
  | .array _ => "array"
  | .table .. => "table"
  | .tables _ => "array of tables"

def flag? : Item → Except Complaint Bool
  | .boolean value => .ok value
  | item => .error (.wrongType item.found "a boolean")

def capacity? : Item → Except Complaint UInt64
  | .integer value =>
    if value < 0 then .error (.wrongValue (.integer value) "usize")
    else .ok (UInt64.ofNat value.toNat)
  | item => .error (.wrongType item.found "usize")

/-- The item under the name of a choice holds nothing.  It should be a table,
and an array is spoken of as one, unless its elements have headers. -/
def checkEmpty : Item → Except Complaint Unit
  | .table _ entries => if entries.isEmpty then .ok () else .error .tableNotEmpty
  | .array elements => if elements.isEmpty then .ok () else .error .tableNotEmpty
  | .tables elements => if elements.isEmpty then .ok () else .error .tablesNotEmpty
  | item => .error (.notTable item.kind)

def policyNamed? (name : String) : Except Complaint WritePolicy :=
  match WritePolicy.ofName? name with
  | some policy => .ok policy
  | none => .error (.unknownChoice name (WritePolicy.all.map WritePolicy.name))

/-- Puts the place of a complaint beside it. -/
def located {α : Type} (mark : Span) : Except Complaint α → Except Finding α
  | .ok value => .ok value
  | .error complaint => .error ⟨complaint, mark⟩

/-- A policy is a name, or a table with that name as its only key.  In a table
an unknown name is marked itself, and what stands under a name has its own mark
if it is written in one place. -/
def policy? (mark : Span) : Item → Except Finding WritePolicy
  | .text name => located mark (policyNamed? name)
  | .table _ [] => .error ⟨.noElement, mark⟩
  | .table _ [entry] => do
    let policy ← located entry.key.span (policyNamed? entry.key.text)
    located (entry.span.getD mark) (checkEmpty entry.item)
    return policy
  | .table .. => .error ⟨.severalElements, mark⟩
  | _ => .error ⟨.neitherTextNorTable, mark⟩

/-- Adds what one entry of the root table says. -/
def addEntry (draft : Draft) (entry : Entry Item) : Except Finding Draft :=
  match Setting.ofName? entry.key.text with
  | none => .ok draft
  | some .startTemporary => do
    let value ← located entry.mark (flag? entry.item)
    return { draft with startTemporary := some value }
  | some .defaultPolicy => do
    let value ← policy? entry.mark entry.item
    return { draft with defaultPolicy := some value }
  | some .queueCapacity => do
    let value ← located entry.mark (capacity? entry.item)
    return { draft with queueCapacity := some value }

def configOf (table : Table) : Except Finding Config :=
  (table.foldlM addEntry {}).map Draft.complete

def maxInteger : Nat := Nat.pow 2 63 - 1

inductive WriteFault where
  /-- The capacity is greater than any integer of a document. -/
  | outOfRange
  deriving DecidableEq, Repr

def WriteFault.message : WriteFault → String
  | .outOfRange => "out-of-range value for u64 type"

/-- One line for each setting, in the order of declaration. -/
def writeConfig (config : Config) : Except WriteFault String :=
  if maxInteger < config.queueCapacity.toNat then .error .outOfRange
  else
    .ok (Setting.startTemporary.name ++ " = " ++
        (if config.startTemporary then "true" else "false") ++ "\n" ++
      Setting.defaultPolicy.name ++ " = \"" ++ config.defaultPolicy.name ++ "\"\n" ++
      Setting.queueCapacity.name ++ " = " ++ toString config.queueCapacity.toNat ++ "\n")

end Toml

inductive ConfigFault where
  | notWellFormed
  | unfit (excerpt : Toml.Excerpt) (complaint : Complaint)
  | noCapacity
  | unreadable (path reason : String)
  deriving DecidableEq, Repr

namespace ConfigFault

/-- What is reported in place of the details of a syntax error. -/
def syntaxNotice : String := "<toml syntax error>"

def detail : ConfigFault → String
  | .notWellFormed => syntaxNotice
  | .unfit excerpt complaint =>
    excerpt.text ++ complaint.message Toml.numberLayout ++ "\n"
  | .noCapacity => "client_queue_capacity must be greater than 0"
  | .unreadable path reason => "cannot read " ++ path ++ ": " ++ reason

def fault (reason : ConfigFault) : Fault :=
  .configuration reason.detail

def summary (reason : ConfigFault) : String :=
  match reason with
  | .notWellFormed => syntaxNotice
  | _ => reason.fault.message

end ConfigFault

namespace Config

/-- A queue has room for at least one command. -/
def validate (config : Config) : Except ConfigFault Unit :=
  if config.queueCapacity = 0 then .error .noCapacity else .ok ()

/-- Reads a configuration, lets the variable decide the initial mode, and
checks the result. -/
def ofToml (override : Variable) (text : String) : Reply Unit (Except ConfigFault Config) :=
  match Toml.parse text.toList with
  | none => ⟨.error .notWellFormed, (), []⟩
  | some table =>
    match Toml.configOf table with
    | .error finding =>
      ⟨.error (.unfit (.ofSpan text.toList finding.mark) finding.complaint), (), []⟩
    | .ok config =>
      let applied := config.applyVariable override
      ⟨applied.next.validate.map fun _ => applied.next, (), applied.events⟩

end Config
end Keyring
