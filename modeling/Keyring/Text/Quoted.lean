import Keyring.Text.GraphemeExtend
import Keyring.Text.Ignorable
import Keyring.Text.Printable

/-!
# Quoted text

Text in diagnostic output stands between double quotes.  What could end or
distort the line is escaped: the quote, the backslash and five controls by a
letter of their own, and every other character that would not be seen by itself
by its code point in hexadecimal.
-/

namespace Keyring
namespace Text

def escapeLetter? : Char → Option Char
  | '"' => some '"'
  | '\\' => some '\\'
  | '\n' => some 'n'
  | '\r' => some 'r'
  | '\t' => some 't'
  | '\x00' => some '0'
  | _ => none

/-- The digits of a code point: lower case, without leading zeros. -/
def hexDigits (code : Nat) : List Char :=
  Nat.toDigits 16 code

/-- The halfwidth sound marks extend a grapheme, but have room of their own. -/
def isHalfwidthMark (c : Char) : Bool :=
  c == '\uff9e' || c == '\uff9f'

/-- Whether a character would be drawn over its neighbour. -/
def overlaps (c : Char) : Bool :=
  extendsGrapheme c && !isHalfwidthMark c

def isVisible (c : Char) : Bool :=
  isPrintable c && !isIgnorable c && !overlaps c

def escapeChar (c : Char) : List Char :=
  match escapeLetter? c with
  | some letter => ['\\', letter]
  | none =>
    if isVisible c then [c]
    else ['\\', 'u', '{'] ++ hexDigits c.toNat ++ ['}']

def quoteChars (text : List Char) : List Char :=
  '"' :: text.flatMap escapeChar ++ ['"']

def quote (text : String) : String :=
  String.ofList (quoteChars text.toList)

end Text
end Keyring
