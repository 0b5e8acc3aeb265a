/-!
# Diagnostic layout

The diagnostic text of a value is a figure: plain text, a record with named
fields, a wrapper around values, or a mapping.  A figure is written on one
line, or spread over lines with one part a line, four blanks deeper than what
holds it, and a comma after each part.
-/

namespace Keyring

inductive Figure where
  | plain (text : String)
  /-- An open record tells that it does not show all its fields. -/
  | record (name : String) (fields : List (String × Figure)) (isOpen : Bool)
  | wrapper (name : String) (parts : List Figure)
  | mapping (entries : List (String × Figure))

namespace Figure

def separated (parts : List String) : String :=
  ", ".intercalate parts

mutual

def line : Figure → String
  | .plain text => text
  | .record name fields isOpen =>
    name ++ " \x7b " ++ separated (fieldLines fields ++ if isOpen then [".."] else []) ++ " \x7d"
  | .wrapper name parts => name ++ "(" ++ separated (partLines parts) ++ ")"
  | .mapping entries => "\x7b" ++ separated (fieldLines entries) ++ "\x7d"

def fieldLines : List (String × Figure) → List String
  | [] => []
  | (name, value) :: rest => (name ++ ": " ++ value.line) :: fieldLines rest

def partLines : List Figure → List String
  | [] => []
  | part :: rest => part.line :: partLines rest

end

/-- The blanks before a line at a depth. -/
def margin (depth : Nat) : String :=
  String.ofList (List.replicate (4 * depth) ' ')

mutual

/-- A figure over several lines; `depth` is that of the line it starts on. -/
def spread (depth : Nat) : Figure → String
  | .plain text => text
  | .record name fields isOpen =>
    name ++ " \x7b\n" ++ spreadFields (depth + 1) fields ++
      (if isOpen then margin (depth + 1) ++ "..\n" else "") ++ margin depth ++ "\x7d"
  | .wrapper name parts =>
    name ++ "(\n" ++ spreadParts (depth + 1) parts ++ margin depth ++ ")"
  | .mapping [] => "\x7b\x7d"
  | .mapping (entry :: rest) =>
    "\x7b\n" ++ spreadFields (depth + 1) (entry :: rest) ++ margin depth ++ "\x7d"

def spreadFields (depth : Nat) : List (String × Figure) → String
  | [] => ""
  | (name, value) :: rest =>
    margin depth ++ name ++ ": " ++ value.spread depth ++ ",\n" ++ spreadFields depth rest

def spreadParts (depth : Nat) : List Figure → String
  | [] => ""
  | part :: rest => margin depth ++ part.spread depth ++ ",\n" ++ spreadParts depth rest

end

def pretty (figure : Figure) : String :=
  figure.spread 0

end Figure
end Keyring
