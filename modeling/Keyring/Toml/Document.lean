import Keyring.Toml.Value

/-!
# Reading documents

A document is a sequence of sections: lines before any header, and lines under
headers.  The sections are read first and then put together, in their order.
-/

namespace Keyring
namespace Toml

/-- The header of a section, with its place. -/
inductive Header where
  | table (path : Path) (span : Span)
  | element (path : Path) (span : Span)

structure Section where
  header : Header
  lines : List Line

def Header.path : Header → Path
  | .table path _ | .element path _ => path

def Header.span : Header → Span
  | .table _ span | .element _ span => span

/-- A header after its first bracket is known to be there. -/
def scanHeader (text : List Char) : Option (Header × List Char) :=
  match text with
  | '[' :: '[' :: inner =>
    match scanPath inner with
    | some (path, ']' :: ']' :: rest) => some (.element path ⟨text, rest⟩, rest)
    | _ => none
  | '[' :: inner =>
    match scanPath inner with
    | some (path, ']' :: rest) => some (.table path ⟨text, rest⟩, rest)
    | _ => none
  | _ => none

inductive Statement where
  | blank
  | header (header : Header)
  | line (line : Line)

def scanStatement (text : List Char) : Option (Statement × List Char) :=
  match text with
  | '[' :: _ =>
    match scanHeader text with
    | some (header, rest) => (finishLine? rest).map (.header header, ·)
    | none => none
  | c :: _ =>
    if c == '#' || c == '\n' || c == '\r' then (finishLine? text).map (.blank, ·)
    else
      match scanLine (scanValue (nestingLimit - 1)) text with
      | some (line, rest) => (finishLine? rest).map (.line line, ·)
      | none => none
  | [] => some (.blank, [])

/-- The statements of a text.  Each takes up text, so the length of the text
bounds their number. -/
def scanStatements : Nat → List Char → Option (List Statement)
  | bound, text =>
    match skipGap text with
    | [] => some []
    | start =>
      match bound with
      | 0 => none
      | bound + 1 =>
        match scanStatement start with
        | none => none
        | some (statement, rest) => (scanStatements bound rest).map (statement :: ·)

/-- Lines before any header, and the sections that follow. -/
def sections : List Statement → List Line × List Section
  | [] => ([], [])
  | .blank :: rest => sections rest
  | .line line :: rest => (line :: (sections rest).1, (sections rest).2)
  | .header header :: rest =>
    ([], { header, lines := (sections rest).1 } :: (sections rest).2)

namespace Section

/-- A section reaches from its header to its last value. -/
def span (s : Section) : Span :=
  match s.lines.getLast? with
  | some line => ⟨s.header.span.start, line.span.stop⟩
  | none => s.header.span

/-- Opens the table of a header.  It may have been implied by deeper headers
before, and is then moved to the end with what it holds. -/
def addTable (s : Section) (table : Table) : Option Table :=
  let key := s.header.path.last
  let opened := fun inner : Table => (s.lines.foldlM addLine inner).map fun filled =>
    Table.erase table key.text ++ [{ key, span := some s.span, item := .table .header filled }]
  match Table.find? table key.text with
  | none => opened []
  | some entry =>
    match entry.item with
    | .table .implied inner => opened inner
    | _ => none

/-- Adds one more table under a header for several. -/
def addElement (s : Section) (table : Table) : Option Table :=
  let key := s.header.path.last
  (s.lines.foldlM addLine []).bind fun filled =>
    match Table.find? table key.text with
    | none => some (table ++ [{ key, span := some s.span, item := .tables [filled] }])
    | some entry =>
      match entry.item with
      | .tables elements =>
        some (Table.replace table key.text fun entry =>
          { entry with
            span := some ⟨(entry.span.getD s.span).start, s.span.stop⟩
            item := .tables (elements ++ [filled]) })
      | _ => none

def addTo (table : Table) (s : Section) : Option Table :=
  let change := match s.header with
    | .table .. => s.addTable
    | .element .. => s.addElement
  alterAt false (fun _ inner => change inner) s.header.path.way .header table

end Section

/-- A mark for the order of bytes may stand before a text. -/
def dropByteOrderMark (text : List Char) : List Char :=
  match text with
  | '\ufeff' :: rest => rest
  | _ => text

def parse (text : List Char) : Option Table := do
  let text := dropByteOrderMark text
  let statements ← scanStatements text.length text
  let (lines, rest) := sections statements
  let root ← lines.foldlM addLine []
  rest.foldlM Section.addTo root

end Toml
end Keyring
