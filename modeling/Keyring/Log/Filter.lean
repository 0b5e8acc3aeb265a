import Keyring.Event
import Keyring.Log.Pattern
import Keyring.Text.Bytes

/-!
# Log filters

A filter is a list of directives.  A directive gives a level to all targets
that begin with its target, or to every target if it names none; the directive
with the longest target decides, and what no directive speaks of is not logged.
-/

namespace Keyring
namespace Log

/-- The most talkative level that passes; `none` lets nothing pass. -/
abbrev Threshold := Option Level

def passes (threshold : Threshold) (level : Level) : Bool :=
  match threshold with
  | none => false
  | some limit => level.verbosity ≤ limit.verbosity

/-- Thresholds in the order of their numbers, which count from nought. -/
def thresholds : List (String × Threshold) :=
  [("off", none), ("error", some .error), ("warn", some .warn), ("info", some .info),
    ("debug", some .debug), ("trace", some .trace)]

/-- A number in decimal digits, with an optional plus sign. -/
def number? (text : List Char) : Option Nat :=
  let digits := match text with
    | '+' :: rest => rest
    | _ => text
  if digits.isEmpty || !digits.all Char.isDigit then none
  else some (Text.digitsValue 10 digits)

/-- A level by number or by name in any case.  No text at all means errors only. -/
def threshold? (text : List Char) : Option Threshold :=
  match number? text with
  | some index => (thresholds[index]?).map Prod.snd
  | none =>
    if text.isEmpty then some (some .error)
    else (thresholds.find? fun entry => entry.1.toList == text.map Char.toLower).map Prod.snd

structure Directive where
  /-- Targets that begin with this are meant; `none` means all targets. -/
  target : Option (List Char) := none
  /-- A field that the event must have. -/
  field : Option (List Char) := none
  threshold : Threshold := some .trace
  deriving DecidableEq

/-- A directive as written.  One that asks for an enclosing span, or for the
value of a field, is well formed, but selects nothing here. -/
inductive Reading where
  | selects (directive : Directive)
  | idle
  deriving DecidableEq

inductive Flaw where
  | malformed
  /-- A name would begin or end inside a character. -/
  | dividedCharacter
  deriving DecidableEq, Repr

namespace Reading

def canStart (c : Char) : Bool :=
  c == '-' || c == ':' || c == '_' || Text.isAlphanumeric c

/-- A level after its equals sign; without text every level passes. -/
def levelAfter? (text : List Char) : Option Threshold :=
  if text.isEmpty then some (some .trace) else threshold? text

/-- A name without brackets and level: a level for all targets, or a target. -/
def ofName (text : List Char) : Reading :=
  match threshold? text with
  | some threshold => .selects { threshold }
  | none => .selects { target := some text }

/-- The value of a field up to the next equals sign, if the field has one. -/
def fieldValue? (field : List Char) : Option (List Char) :=
  match field.dropWhile (· != '=') with
  | [] => none
  | _ :: value => some (value.takeWhile (· != '='))

/-- Whether a field has a name and, if it is given, a value that can be one. -/
def fieldAllowed (field : List Char) : Bool :=
  !field.isEmpty && (fieldValue? field).all Pattern.isValue

/-- What is asked of the name of a span and of a field, if either is given. -/
def ofParts (target span field : Option (List Char)) (threshold : Threshold) : Reading :=
  if span.isSome || (field.bind fieldValue?).isSome then .idle
  else .selects { target, field, threshold }

/-!
The places of the brackets and of the equals sign are those in the directive
without the blanks around it, in bytes.  The names between them are cut out of
the directive as given, so those of an indented directive are shifted, and may
divide a character.  Below, `text` is the directive as given, and `rest` is what
stands in the trimmed directive from a place on.
-/

def cut (text : List Char) (start stop : Nat) : Except Flaw (List Char) :=
  match Text.slice? text start stop with
  | some part => .ok part
  | none => .error .dividedCharacter

/-- The level that closes a directive, if there is one. -/
def closing (text : List Char) (place : Nat) (rest : List Char) : Except Flaw Threshold :=
  match rest with
  | [] => .ok (some .trace)
  | '=' :: _ => do
    match levelAfter? (← cut text (place + 1) (Text.byteSize text)) with
    | some threshold => .ok threshold
    | none => .error .malformed
  | _ => .error .malformed

def ofBraces (text : List Char) (target span : Option (List Char)) (place : Nat)
    (rest : List Char) : Except Flaw Reading :=
  let inner := rest.takeWhile (· != '}')
  let stop := place + Text.byteSize inner
  match rest.drop inner.length with
  | [] => .error .malformed
  | _ :: rest => do
    let field ← cut text place stop
    if fieldAllowed field then
      match rest with
      | ']' :: rest =>
        return ofParts target span (some field) (← closing text (stop + 2) rest)
      | _ => .error .malformed
    else .error .malformed

/-- What stands in brackets: the name of a span, a field in braces, or both. -/
def ofBrackets (text : List Char) (target : Option (List Char)) (place : Nat)
    (rest : List Char) : Except Flaw Reading :=
  let inner := rest.takeWhile fun c => c != ']' && c != '{'
  let stop := place + Text.byteSize inner
  match rest.drop inner.length with
  | ']' :: rest => do
    let span ← cut text place stop
    return ofParts target (some span) none (← closing text (stop + 1) rest)
  | '{' :: rest => do
    let span ← cut text place stop
    ofBraces text target (if span.isEmpty then none else some span) (stop + 1) rest
  | _ => .error .malformed

def ofText (text : List Char) : Except Flaw Reading :=
  let core := Text.trim text
  let name := core.takeWhile fun c => c != '=' && c != '['
  let stop := Text.byteSize name
  match core, core.drop name.length with
  | [], _ => .error .malformed
  | '[' :: rest, _ => ofBrackets text none 1 rest
  | first :: _, rest =>
    if !canStart first then .error .malformed
    else
      match rest with
      | [] => .ok (ofName text)
      | '[' :: rest => do
        let target ← cut text 0 stop
        ofBrackets text (some target) (stop + 1) rest
      | rest => do
        let target ← cut text 0 stop
        return ofParts (some target) none none (← closing text stop rest)

end Reading

/-- The directives of a filter, in the order in which they were given. -/
structure Filter where
  directives : List Directive
  deriving DecidableEq

namespace Filter

/-- The parts between commas; empty parts do not count. -/
def parts (text : List Char) : List (List Char) :=
  (text.splitOn ',').filter fun part => !part.isEmpty

/-- A filter without directives lets errors pass. -/
def ofReadings (readings : List Reading) : Filter where
  directives :=
    if readings.isEmpty then [{ threshold := some .error }]
    else readings.filterMap fun
      | .selects directive => some directive
      | .idle => none

/-- Reads a filter whose directives must all be well formed. -/
def ofText (text : List Char) : Except Flaw Filter := do
  return ofReadings (← (parts text).mapM Reading.ofText)

/-- Reads a filter and leaves out directives that are malformed. -/
def ofTextLenient (text : List Char) : Except Flaw Filter := do
  let readings ← (parts text).mapM fun part =>
    match Reading.ofText part with
    | .error .malformed => .ok none
    | read => read.map some
  return ofReadings (readings.filterMap id)

/-- The filter of the environment if it is set and well formed, else the default.
A name that divides a character is no name in either. -/
def choose (environment : Option String) (default : String) : Except Flaw Filter :=
  match environment.map fun text => ofText text.toList with
  | none | some (.error .malformed) => ofTextLenient default.toList
  | some read => read

/-- Whether a directive speaks of an event with this target and these fields. -/
def speaksOf (target : List Char) (fields : List (List Char)) (directive : Directive) : Bool :=
  (directive.target.all fun start => start.isPrefixOf target) &&
    directive.field.all fields.contains

/-- The order of directives that speak of one event: a longer target counts
more, then the wish for a field, then the field's name. -/
def yields (first second : Directive) : Bool :=
  let targetSize := fun directive : Directive =>
    directive.target.elim 0 fun target => target.length + 1
  let fieldSize := fun directive : Directive => directive.field.elim 0 fun _ => 1
  if targetSize first ≠ targetSize second then targetSize first < targetSize second
  else if fieldSize first ≠ fieldSize second then fieldSize first < fieldSize second
  else !(second.field.getD []).lex (first.field.getD []) fun c d => c < d

/-- The directive that decides; of two alike the later. -/
def deciding? (filter : Filter) (target : List Char) (fields : List (List Char)) :
    Option Directive :=
  (filter.directives.filter (speaksOf target fields)).foldl
    (fun best directive =>
      match best with
      | none => some directive
      | some held => if yields held directive then some directive else some held)
    none

def fieldNames (event : Event) : List (List Char) :=
  "message".toList :: event.fields.map fun field => field.1.toList

def allows (filter : Filter) (target : String) (event : Event) : Bool :=
  match filter.deciding? target.toList (fieldNames event) with
  | some directive => passes directive.threshold event.level
  | none => false

end Filter
end Log
end Keyring
