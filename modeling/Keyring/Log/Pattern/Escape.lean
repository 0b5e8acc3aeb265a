import Keyring.Text.Blank
import Keyring.Text.Digits

/-!
# Blanks and escapes in patterns

Blanks and comments count or not, as the modes say.  An escape stands for a
character, for a set of characters, or for a place between two of them.
Patterns know ASCII only: letters, digits and blanks as sets, and word
boundaries, are refused as long as they would mean those of Unicode.
-/

namespace Keyring
namespace Log
namespace Pattern

/-- What flags switch, as far as the form depends on it. -/
structure Modes where
  /-- Sets are sets of characters; otherwise sets of bytes, of which only those
  of ASCII are characters. -/
  unicode : Bool := true
  caseless : Bool := false
  /-- Blanks do not count, and comments may stand between the parts. -/
  spaced : Bool := false
  deriving DecidableEq, Repr

def skipSpace (inComment : Bool) : List Char → List Char
  | [] => []
  | c :: rest =>
    if inComment then skipSpace (c != '\n') rest
    else if Text.isBlank c then skipSpace false rest
    else if c == '#' then skipSpace true rest
    else c :: rest

namespace Modes

/-- Whether characters are compared by their case in Unicode. -/
def folds (modes : Modes) : Bool :=
  modes.caseless && modes.unicode

/-- What is left after all that does not count. -/
def skip (modes : Modes) (text : List Char) : List Char :=
  if modes.spaced then skipSpace false text else text

/-- The character that comes next.  A sign that opens a comment does not count
here, but the comment does. -/
def peek (modes : Modes) (text : List Char) : Option Char :=
  if modes.spaced then
    match text.dropWhile Text.isBlank with
    | '#' :: comment => (comment.dropWhile Text.isBlank).head?
    | rest => rest.head?
  else text.head?

end Modes

inductive Escape where
  | char (code : Nat)
  | set
  | place
  deriving DecidableEq, Repr

/-- A number of hexadecimal digits, between which nothing stands that counts. -/
def scanHex (modes : Modes) : Nat → List Char → Option (List Char × List Char)
  | 0, text => some ([], text)
  | count + 1, text =>
    match modes.skip text with
    | digit :: rest =>
      if Text.isHexDigit digit then
        (scanHex modes count rest).map fun (digits, rest) => (digit :: digits, rest)
      else none
    | [] => none

/-- The character of a code given by so many digits. -/
def scanCode (modes : Modes) (count : Nat) (text : List Char) : Option (Nat × List Char) :=
  match scanHex modes count text with
  | some (digits, rest) =>
    let code := Text.digitsValue 16 digits
    if code.isValidChar then some (code, rest) else none
  | none => none

def scanEscape (modes : Modes) (text : List Char) : Option (Escape × List Char) :=
  let char := fun (code : Nat × List Char) => (Escape.char code.1, code.2)
  let only := fun (allowed : Bool) (escape : Escape) (rest : List Char) =>
    if allowed then some (escape, rest) else none
  match text with
  | 'x' :: rest =>
    match scanCode modes 2 rest with
    | some (code, rest) => only (modes.unicode || code < 0x80) (.char code) rest
    | none => none
  | 'u' :: rest => (scanCode modes 4 rest).map char
  | 'U' :: rest => (scanCode modes 8 rest).map char
  | 'd' :: rest | 's' :: rest | 'w' :: rest => only (!modes.unicode) .set rest
  | 'A' :: rest | 'z' :: rest => some (.place, rest)
  | 'b' :: rest | 'B' :: rest | '<' :: rest | '>' :: rest => only (!modes.unicode) .place rest
  | 'a' :: rest => some (.char 0x07, rest)
  | 't' :: rest => some (.char 0x09, rest)
  | 'n' :: rest => some (.char 0x0a, rest)
  | 'v' :: rest => some (.char 0x0b, rest)
  | 'f' :: rest => some (.char 0x0c, rest)
  | 'r' :: rest => some (.char 0x0d, rest)
  | c :: rest => only (c.toNat < 0x80 && !c.isAlphanum) (.char c.toNat) rest
  | [] => none

end Pattern
end Log
end Keyring
