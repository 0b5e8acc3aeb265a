import Keyring.Number.Binary64
import Keyring.Text.Bytes

/-!
# Documents

A document is a table: keys with items in the order in which they came about.
Tables know how they came about, because that decides what may be added to
them later.  Keys and values know their place in the text; a table that no
header or braces wrote out has none of its own.
-/

namespace Keyring
namespace Toml

/-- A stretch of text.  Both ends are given by the text that is left from there. -/
structure Span where
  start : List Char
  stop : List Char
  deriving DecidableEq, Repr

namespace Span

def size (span : Span) : Nat :=
  Text.byteSize span.start - Text.byteSize span.stop

end Span

structure Key where
  text : String
  span : Span
  deriving DecidableEq, Repr

/-- How a table came about. -/
inductive Origin where
  /-- It was written out in braces. -/
  | inline
  /-- It was opened by its own header. -/
  | header
  /-- It was named on the way of a dotted key. -/
  | dotted
  /-- It was named on the way of a header. -/
  | implied
  deriving DecidableEq, Repr

structure Entry (α : Type) where
  key : Key
  /-- Where the item is written, if it is written in one place. -/
  span : Option Span
  item : α

namespace Entry

/-- What is marked when the item is at fault. -/
def mark {α : Type} (entry : Entry α) : Span :=
  entry.span.getD entry.key.span

end Entry

inductive Item where
  | boolean (value : Bool)
  | integer (value : Int)
  | real (value : Binary64)
  | text (value : String)
  /-- A date, a time of day or both, as written. -/
  | moment (value : String)
  | array (elements : List Item)
  | table (origin : Origin) (entries : List (Entry Item))
  /-- Tables that were opened one after the other under one header. -/
  | tables (elements : List (List (Entry Item)))

abbrev Table := List (Entry Item)

namespace Table

def find? (table : Table) (name : String) : Option (Entry Item) :=
  List.find? (fun entry => entry.key.text == name) table

/-- Puts an item in the place of the one that a key has. -/
def replace (table : Table) (name : String) (change : Entry Item → Entry Item) : Table :=
  table.map fun entry => if entry.key.text == name then change entry else entry

def erase (table : Table) (name : String) : Table :=
  table.filter fun entry => entry.key.text != name

def setItem (table : Table) (name : String) (item : Item) : Table :=
  table.replace name fun entry => { entry with item }

end Table
end Toml
end Keyring
