import Keyring.Log.Pattern.Bracket
import Keyring.Text.Alphabetic

/-!
# Patterns

The value of a field in a filter is a regular expression.  Nothing is matched
against it here, so all that counts is whether it is well formed and its parts
do not stand too deep inside one another.  A pattern stands in braces and
between commas, so it holds no closing brace and no comma, and no count after
an opening brace is ever complete.

Every step of a reader takes up text, so the length of the text bounds their
number.
-/

namespace Keyring
namespace Log
namespace Pattern

/-! ## Groups -/

inductive Opening where
  | group (modes : Modes) (name : Option (List Char))
  /-- Flags for the rest of the enclosing group. -/
  | setting (modes : Modes)

/-- The name of a group, up to its angle bracket. -/
def scanName (text : List Char) : Option (List Char × List Char) :=
  let name := text.takeWhile (· != '>')
  let mayFollow := fun c => c == '.' || c == '[' || c == ']' || c == '_' || Text.isAlphanumeric c
  match name, text.drop name.length with
  | first :: more, '>' :: rest =>
    if (first == '_' || Text.isAlphabetic first) && more.all mayFollow then some (name, rest)
    else none
  | _, _ => none

/-- Whether flags are known ones, each given once, with at most one hyphen that
is not the last. -/
def flagsAllowed (flags : List Char) : Bool :=
  flags.all ("imsUuRx-".toList.contains ·) && decide flags.Nodup && flags.getLast? != some '-'

/-- The modes after flags: those before a hyphen are on, those after it off. -/
def Modes.apply (modes : Modes) (flags : List Char) : Modes :=
  let on := flags.takeWhile (· != '-')
  let value := fun flag before => on.contains flag || (before && !flags.contains flag)
  { unicode := value 'u' modes.unicode, caseless := value 'i' modes.caseless,
    spaced := value 'x' modes.spaced }

/-- The beginning of a group after its parenthesis. -/
def scanOpening (modes : Modes) (text : List Char) : Option (Opening × List Char) :=
  match modes.skip text with
  | '?' :: 'P' :: '<' :: rest | '?' :: '<' :: rest =>
    (scanName rest).map fun (name, rest) => (.group modes (some name), rest)
  | '?' :: rest =>
    let flags := rest.takeWhile fun c => c != ':' && c != ')'
    if !flagsAllowed flags then none
    else
      match rest.drop flags.length with
      | ':' :: rest => some (.group (modes.apply flags) none, rest)
      | ')' :: rest => if flags.isEmpty then none else some (.setting (modes.apply flags), rest)
      | _ => none
  | rest => some (.group modes none, rest)

/-! ## Whole patterns -/

/-- How far parts may stand inside one another. -/
def nestingLimit : Nat := 250

/-- What has been read of a group, or of the whole pattern. -/
structure Scope where
  modes : Modes := {}
  /-- The depths of the parts since the last bar, the latest first. -/
  parts : List Nat := []
  /-- The depths of what stands between the bars before. -/
  branches : List Nat := []

namespace Scope

def depth (scope : Scope) : Nat :=
  depthOf (depthOf scope.parts :: scope.branches)

def add (scope : Scope) (depth : Nat) : Scope :=
  { scope with parts := depth :: scope.parts }

def branch (scope : Scope) : Scope :=
  { scope with parts := [], branches := depthOf scope.parts :: scope.branches }

/-- After a sign of repetition, which takes the last part down a step. -/
def repeatLast (scope : Scope) : Scope :=
  match scope.parts with
  | last :: parts => { scope with parts := (last + 1) :: parts }
  | [] => scope

end Scope

structure Reader where
  scope : Scope := {}
  enclosing : List Scope := []
  names : List (List Char) := []
  repeatable : Bool := false

namespace Reader

def modes (reader : Reader) : Modes :=
  reader.scope.modes

/-- After a part that can be repeated. -/
def after (reader : Reader) (depth : Nat) : Reader :=
  { reader with scope := reader.scope.add depth, repeatable := true }

/-- After a character that stands for itself. -/
def literal? (reader : Reader) : Option Reader :=
  if reader.modes.folds then none else some (reader.after 0)

/-- Goes into a group or takes over flags, unless a name is given twice. -/
def enter? (reader : Reader) : Opening → Option Reader
  | .setting modes =>
    some { reader with scope := { reader.scope.add 0 with modes }, repeatable := false }
  | .group modes name =>
    if name.any reader.names.contains then none
    else
      some { scope := { modes }, enclosing := reader.scope :: reader.enclosing,
             names := name.toList ++ reader.names }

def leave? (reader : Reader) : Option Reader :=
  match reader.enclosing with
  | [] => none
  | scope :: enclosing => some ({ reader with scope, enclosing }.after (reader.scope.depth + 1))

/-- After a sign of repetition; a question mark right behind it belongs to it. -/
def repeat? (reader : Reader) (rest : List Char) : Option (Reader × List Char) :=
  if reader.repeatable then
    some ({ reader with scope := reader.scope.repeatLast },
      match rest with
      | '?' :: rest => rest
      | _ => rest)
  else none

def step (reader : Reader) (first : Char) (rest : List Char) : Option (Reader × List Char) :=
  match first with
  | '(' =>
    match scanOpening reader.modes rest with
    | some (opening, rest) => (reader.enter? opening).map (·, rest)
    | none => none
  | ')' => reader.leave?.map (·, rest)
  | '|' => some ({ reader with scope := reader.scope.branch, repeatable := false }, rest)
  | '[' =>
    (scanSet reader.modes rest.length .opened {} [] rest).map fun (depth, rest) =>
      (reader.after depth, rest)
  | '*' | '+' | '?' => reader.repeat? rest
  | '{' => none
  | '\\' =>
    match scanEscape reader.modes rest with
    | some (.char _, rest) => reader.literal?.map (·, rest)
    | some (_, rest) => some (reader.after 0, rest)
    | none => none
  | '.' => if reader.modes.unicode then some (reader.after 0, rest) else none
  | '^' | '$' => some (reader.after 0, rest)
  | _ => reader.literal?.map (·, rest)

def finishes : Nat → Reader → List Char → Bool
  | bound, reader, text =>
    match reader.modes.skip text with
    | [] => reader.enclosing.isEmpty && reader.scope.depth ≤ nestingLimit
    | first :: rest =>
      match bound with
      | 0 => false
      | bound + 1 =>
        match reader.step first rest with
        | some (reader, rest) => finishes bound reader rest
        | none => false

end Reader

def isWellFormed (text : List Char) : Bool :=
  Reader.finishes text.length {} text

/-! ## Numbers -/

/-- Whether a text is a decimal number without a sign, perhaps with a point and
an exponent, or a word for what is no finite number. -/
def isMagnitude (text : List Char) : Bool :=
  let whole := text.takeWhile Char.isDigit
  let rest := text.dropWhile Char.isDigit
  let fraction := match rest with
    | '.' :: rest => rest.takeWhile Char.isDigit
    | _ => []
  let rest := match rest with
    | '.' :: rest => rest.dropWhile Char.isDigit
    | _ => rest
  let exponentFits := match rest with
    | [] => true
    | letter :: power =>
      let digits := (Text.splitSign power).2
      letter.toLower == 'e' && !digits.isEmpty && digits.all Char.isDigit
  let word := String.ofList (text.map Char.toLower)
  word == "inf" || word == "infinity" || word == "nan" ||
    (!(whole ++ fraction).isEmpty && exponentFits)

/-- Whether a text can be the value of a field: a number, or a pattern.  Only a
number with a plus sign is no pattern. -/
def isValue (text : List Char) : Bool :=
  match text with
  | '+' :: rest => isMagnitude rest
  | _ => isWellFormed text

end Pattern
end Log
end Keyring
