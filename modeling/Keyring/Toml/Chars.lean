import Keyring.Text.Digits

/-!
# Blanks, comments and strings

The lexical parts of a document.  Every reader takes the text that is left and
gives back what is left after it.
-/

namespace Keyring
namespace Toml

def isGap (c : Char) : Bool :=
  c == ' ' || c == '\t'

def skipGap (text : List Char) : List Char :=
  text.dropWhile isGap

/-- Characters that may stand in comments and, unless they delimit, in strings:
all but the controls, of which only the tab is allowed. -/
def isVisible (c : Char) : Bool :=
  c == '\t' || (0x20 ≤ c.toNat && c.toNat != 0x7f)

/-- What is left after the end of a line. -/
def lineBreak? : List Char → Option (List Char)
  | '\n' :: rest => some rest
  | '\r' :: '\n' :: rest => some rest
  | _ => none

def skipComment (text : List Char) : List Char :=
  match text with
  | '#' :: rest => rest.dropWhile isVisible
  | _ => text

/-- What is left after the rest of a line that holds at most a comment. -/
def finishLine? (text : List Char) : Option (List Char) :=
  match skipComment (skipGap text) with
  | [] => some []
  | rest => lineBreak? rest

/-- Skips blanks, line ends and comments between the elements of an array. -/
def skipFiller (inComment : Bool) (text : List Char) : List Char :=
  match inComment, text with
  | true, '\n' :: rest | true, '\r' :: '\n' :: rest => skipFiller false rest
  | true, c :: rest => if isVisible c then skipFiller true rest else c :: rest
  | false, ' ' :: rest | false, '\t' :: rest | false, '\n' :: rest | false, '\r' :: '\n' :: rest =>
    skipFiller false rest
  | false, '#' :: rest => skipFiller true rest
  | _, rest => rest

def scalar? (digits : List Char) : Option Char :=
  (Text.hexNumber? digits).bind fun code =>
    if h : code.isValidChar then some (Char.ofNatAux code h) else none

def unescape? : Char → Option Char
  | 'b' => some '\x08'
  | 'f' => some '\x0c'
  | 'n' => some '\n'
  | 'r' => some '\r'
  | 't' => some '\t'
  | '"' => some '"'
  | '\\' => some '\\'
  | _ => none

/-- Puts a character, if there is one, before what a reader found. -/
def prepend (c : Option Char) (found : Option (List Char × List Char)) :
    Option (List Char × List Char) :=
  match c, found with
  | some c, some (text, rest) => some (c :: text, rest)
  | _, _ => none

/-- A string on one line, after its opening quote. -/
def scanBasic : List Char → Option (List Char × List Char)
  | '"' :: rest => some ([], rest)
  | '\\' :: 'u' :: a :: b :: c :: d :: rest => prepend (scalar? [a, b, c, d]) (scanBasic rest)
  | '\\' :: 'U' :: a :: b :: c :: d :: e :: f :: g :: h :: rest =>
    prepend (scalar? [a, b, c, d, e, f, g, h]) (scanBasic rest)
  | '\\' :: letter :: rest => prepend (unescape? letter) (scanBasic rest)
  | c :: rest => if isVisible c && c != '\\' then prepend (some c) (scanBasic rest) else none
  | [] => none

/-- A string without escapes, after its opening quote. -/
def scanLiteral : List Char → Option (List Char × List Char)
  | '\'' :: rest => some ([], rest)
  | c :: rest => if isVisible c then prepend (some c) (scanLiteral rest) else none
  | [] => none

def lineIsBlank (text : List Char) : Bool :=
  (lineBreak? (skipGap text)).isSome

/-- A string over several lines, after its opening quotes.  A backslash at the
end of a line folds away everything up to the next visible character; two
quotes more than the closing three still belong to the text. -/
def scanMultiBasic (folding : Bool) (text : List Char) : Option (List Char × List Char) :=
  match folding, text with
  | true, ' ' :: rest | true, '\t' :: rest | true, '\n' :: rest | true, '\r' :: '\n' :: rest =>
    scanMultiBasic true rest
  | _, '"' :: '"' :: '"' :: '"' :: '"' :: rest => some (['"', '"'], rest)
  | _, '"' :: '"' :: '"' :: '"' :: rest => some (['"'], rest)
  | _, '"' :: '"' :: '"' :: rest => some ([], rest)
  | _, '\\' :: 'u' :: a :: b :: c :: d :: rest =>
    prepend (scalar? [a, b, c, d]) (scanMultiBasic false rest)
  | _, '\\' :: 'U' :: a :: b :: c :: d :: e :: f :: g :: h :: rest =>
    prepend (scalar? [a, b, c, d, e, f, g, h]) (scanMultiBasic false rest)
  | _, '\\' :: c :: rest =>
    if lineIsBlank (c :: rest) then scanMultiBasic true (c :: rest)
    else prepend (unescape? c) (scanMultiBasic false rest)
  | _, '\n' :: rest | _, '\r' :: '\n' :: rest => prepend (some '\n') (scanMultiBasic false rest)
  | _, c :: rest =>
    if isVisible c && c != '\\' then prepend (some c) (scanMultiBasic false rest) else none
  | _, [] => none
termination_by structural text

/-- A string over several lines without escapes, after its opening quotes. -/
def scanMultiLiteral : List Char → Option (List Char × List Char)
  | '\'' :: '\'' :: '\'' :: '\'' :: '\'' :: rest => some (['\'', '\''], rest)
  | '\'' :: '\'' :: '\'' :: '\'' :: rest => some (['\''], rest)
  | '\'' :: '\'' :: '\'' :: rest => some ([], rest)
  | '\n' :: rest | '\r' :: '\n' :: rest => prepend (some '\n') (scanMultiLiteral rest)
  | c :: rest => if isVisible c then prepend (some c) (scanMultiLiteral rest) else none
  | [] => none

/-- A line end right after the opening quotes is not part of the text. -/
def skipFirstBreak (text : List Char) : List Char :=
  (lineBreak? text).getD text

def scanString : List Char → Option (List Char × List Char)
  | '"' :: '"' :: '"' :: rest => scanMultiBasic false (skipFirstBreak rest)
  | '"' :: rest => scanBasic rest
  | '\'' :: '\'' :: '\'' :: rest => scanMultiLiteral (skipFirstBreak rest)
  | '\'' :: rest => scanLiteral rest
  | _ => none

end Toml
end Keyring
