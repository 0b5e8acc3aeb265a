import Keyring.Toml.Chars
import Keyring.Toml.Quantity

/-!
# Keys and values

Keys, and values of every kind.  Arrays and tables in braces may hold each
other up to a limit on depth, and a dotted key has a limit on its parts; values
are read by recursion on what is left of the first.
-/

namespace Keyring
namespace Toml

/-- One more than the greatest depth of values, and than the parts of a key. -/
def nestingLimit : Nat := 80

def isBareKeyChar (c : Char) : Bool :=
  c.isAlphanum || c == '_' || c == '-'

def scanSimpleKey (text : List Char) : Option (Key × List Char) :=
  let found := match text with
    | '"' :: rest => scanBasic rest
    | '\'' :: rest => scanLiteral rest
    | _ =>
      let name := text.takeWhile isBareKeyChar
      if name.isEmpty then none else some (name, text.dropWhile isBareKeyChar)
  found.map fun (name, rest) =>
    ({ text := String.ofList name, span := ⟨text, rest⟩ }, rest)

/-- The parts of a key, at most as many as allowed, with blanks around them. -/
def scanKeyParts : Nat → List Char → Option (List Key × List Char)
  | 0, _ => none
  | allowed + 1, text =>
    match scanSimpleKey (skipGap text) with
    | none => none
    | some (key, rest) =>
      match skipGap rest with
      | '.' :: rest =>
        match scanKeyParts allowed rest with
        | some (keys, rest) => some (key :: keys, rest)
        | none => none
      | rest => some ([key], rest)

/-- The way to a table and the last part of a key. -/
structure Path where
  way : List Key
  last : Key
  deriving Repr

def scanPath (text : List Char) : Option (Path × List Char) :=
  match scanKeyParts (nestingLimit - 1) text with
  | none => none
  | some (keys, rest) => keys.getLast?.map fun last => (⟨keys.dropLast, last⟩, rest)

/-- Changes the table at the end of a way, and makes the tables on the way that
are not there yet.  A dotted key may only go through tables that no header and
no braces have written out; nothing goes through braces. -/
def alterAt (dotted : Bool) (change : Origin → Table → Option Table) :
    List Key → Origin → Table → Option Table
  | [], origin, table => change origin table
  | key :: way, _, table =>
    match Table.find? table key.text with
    | none =>
      let origin := if dotted then Origin.dotted else Origin.implied
      (alterAt dotted change way origin []).map fun inner =>
        table ++ [{ key, span := none, item := .table origin inner }]
    | some entry =>
      match entry.item with
      | .table origin inner =>
        if origin = .inline ∨ (dotted ∧ origin = .header) then none
        else (alterAt dotted change way origin inner).map fun inner =>
          Table.setItem table key.text (.table origin inner)
      | .tables elements =>
        match elements.getLast? with
        | none => none
        | some last => (alterAt dotted change way .header last).map fun last =>
          Table.setItem table key.text (.tables (elements.dropLast ++ [last]))
      | _ => none

structure Line where
  path : Path
  item : Item
  span : Span

/-- Adds a line to a table.  No key is given twice, and a dotted key only adds
to tables that dotted keys have made. -/
def addLine (table : Table) (line : Line) : Option Table :=
  let key := line.path.last
  alterAt true
    (fun origin inner =>
      if (!line.path.way.isEmpty && origin != .dotted) || (Table.find? inner key.text).isSome then
        none
      else some (inner ++ [{ key, span := some line.span, item := line.item }]))
    line.path.way .header table

abbrev ItemReader := List Char → Option (Item × List Char)

def scanLine (value : ItemReader) (text : List Char) : Option (Line × List Char) :=
  match scanPath text with
  | some (path, '=' :: rest) =>
    let start := skipGap rest
    (value start).map fun (item, rest) =>
      ({ path, item, span := ⟨start, rest⟩ }, rest)
  | _ => none

/-- The elements of an array, after its bracket or a comma.  Every element takes
up text, so the length of the text bounds their number. -/
def scanElements (value : ItemReader) : Nat → List Char → Option (List Item × List Char)
  | 0, _ => none
  | bound + 1, text =>
    match skipFiller false text with
    | ']' :: rest => some ([], rest)
    | start =>
      match value start with
      | none => none
      | some (item, rest) =>
        match skipFiller false rest with
        | ',' :: rest =>
          (scanElements value bound rest).map fun (items, rest) => (item :: items, rest)
        | ']' :: rest => some ([item], rest)
        | _ => none

/-- The lines of a table in braces, after its brace or a comma. -/
def scanInlineLines (value : ItemReader) : Nat → List Char → Option (List Line × List Char)
  | 0, _ => none
  | bound + 1, text =>
    match scanLine value text with
    | none => none
    | some (line, rest) =>
      match skipGap rest with
      | ',' :: rest =>
        (scanInlineLines value bound rest).map fun (lines, rest) => (line :: lines, rest)
      | '\x7d' :: rest => some ([line], rest)
      | _ => none

def scanInline (value : ItemReader) (text : List Char) : Option (Item × List Char) :=
  match skipGap text with
  | '\x7d' :: rest => some (.table .inline [], rest)
  | _ =>
    match scanInlineLines value text.length text with
    | none => none
    | some (lines, rest) => (lines.foldlM addLine []).map fun table => (.table .inline table, rest)

/-- A value whose elements, if it has any, are read by a given reader. -/
def scanValueWith (value : ItemReader) (text : List Char) : Option (Item × List Char) :=
  match text with
  | '[' :: rest =>
    (scanElements value rest.length rest).map fun (items, rest) => (.array items, rest)
  | '\x7b' :: rest => scanInline value rest
  | 't' :: 'r' :: 'u' :: 'e' :: rest => some (.boolean true, rest)
  | 'f' :: 'a' :: 'l' :: 's' :: 'e' :: rest => some (.boolean false, rest)
  | c :: _ =>
    if c == '"' || c == '\'' then
      (scanString text).map fun (content, rest) => (.text (String.ofList content), rest)
    else if c.isDigit || c == '+' || c == '-' || c == 'i' || c == 'n' then scanQuantity text
    else none
  | [] => none

/-- A value with at most so many brackets and braces around one another. -/
def scanValue : Nat → ItemReader
  | 0, text =>
    match text with
    | '[' :: _ | '\x7b' :: _ => none
    | _ => scanValueWith (fun _ => none) text
  | depth + 1, text => scanValueWith (scanValue depth) text

end Toml
end Keyring
