import Keyring.Log.Pattern.Escape

/-!
# Sets in brackets

A set lists characters, ranges and other sets, and may combine such lists by
operators, which bind to the left.  Its depth counts how far its parts stand
inside one another: every set in brackets, every operator, and every list of
more than one member is a step down.
-/

namespace Keyring
namespace Log
namespace Pattern

/-- The depth of parts put together.  A single part stands for itself. -/
def depthOf : List Nat → Nat
  | [] => 0
  | [depth] => depth
  | depths => depths.foldl max 0 + 1

def setNames : List String :=
  ["alnum", "alpha", "ascii", "blank", "cntrl", "digit", "graph", "lower", "print", "punct",
    "space", "upper", "word", "xdigit"]

/-- A named set after its bracket: whether it is negated, and what follows. -/
def scanNamedSet (text : List Char) : Option (Bool × List Char) :=
  match text with
  | ':' :: rest =>
    let negated := rest.head? == some '^'
    let inner := if negated then rest.drop 1 else rest
    let name := inner.takeWhile (· != ':')
    match inner.drop name.length with
    | ':' :: ']' :: rest =>
      if setNames.contains (String.ofList name) then some (negated, rest) else none
    | _ => none
  | _ => none

/-- A member of a set: the code of a character, or a set of its own. -/
def scanMember (modes : Modes) (text : List Char) : Option (Option Nat × List Char) :=
  let found := match text with
    | '\\' :: rest => scanEscape modes rest
    | c :: rest => some (.char c.toNat, rest)
    | [] => none
  match found with
  | some (.char code, rest) =>
    if modes.unicode || code < 0x80 then some (some code, rest) else none
  | some (.set, rest) => some (none, rest)
  | _ => none

/-- A member of a set, or a range of characters. -/
def scanRange (modes : Modes) (text : List Char) : Option (List Char) :=
  match scanMember modes text with
  | none => none
  | some (first, rest) =>
    match modes.skip rest with
    | '-' :: more =>
      if modes.peek more == some ']' || modes.peek more == some '-' then some ('-' :: more)
      else
        match first, scanMember modes (modes.skip more) with
        | some first, some (some last, rest) => if first ≤ last then some rest else none
        | _, _ => none
    | rest => some rest

/-- What has been read of a set whose bracket is still open. -/
structure Layer where
  /-- The depths of the members since the last operator. -/
  members : List Nat := []
  /-- The depth of what stands before that operator. -/
  left : Option Nat := none

namespace Layer

def add (layer : Layer) (depth : Nat) : Layer :=
  { layer with members := depth :: layer.members }

def depth (layer : Layer) : Nat :=
  match layer.left with
  | none => depthOf layer.members
  | some left => max left (depthOf layer.members) + 1

def combine (layer : Layer) : Layer where
  left := some layer.depth

end Layer

inductive Stage where
  | opened
  | negated
  /-- After hyphens that come first, and stand for themselves. -/
  | hyphens
  | inside
  deriving DecidableEq, Repr

/-- Reads a set after its bracket, and gives its depth; `outer` are the sets
open around it.  A set of bytes must not be negated, and a set whose case is
that of Unicode must not have members. -/
def scanSet (modes : Modes) :
    Nat → Stage → Layer → List Layer → List Char → Option (Nat × List Char)
  | 0, _, _, _, _ => none
  | bound + 1, stage, layer, outer, text =>
    let more := fun stage layer outer rest => scanSet modes bound stage layer outer rest
    let member := fun stage (allowed : Bool) rest =>
      if modes.folds || !allowed then none else more stage (layer.add 0) outer rest
    match stage, modes.skip text with
    | _, [] => none
    | .opened, '^' :: rest => if modes.unicode then more .negated layer outer rest else none
    | .opened, '-' :: rest | .negated, '-' :: rest | .hyphens, '-' :: rest =>
      member .hyphens true rest
    | .opened, ']' :: rest | .negated, ']' :: rest => member .inside true rest
    | _, '[' :: rest =>
      match scanNamedSet rest with
      | some (negated, rest) => member .inside (!negated || modes.unicode) rest
      | none => more .opened {} (layer :: outer) rest
    | _, ']' :: rest =>
      match outer with
      | [] => some (layer.depth + 1, rest)
      | parent :: outer => more .inside (parent.add (layer.depth + 1)) outer rest
    | _, '&' :: '&' :: rest | _, '-' :: '-' :: rest | _, '~' :: '~' :: rest =>
      more .inside layer.combine outer rest
    | _, rest =>
      match scanRange modes rest with
      | some rest => member .inside true rest
      | none => none

end Pattern
end Log
end Keyring
