import Keyring.Toml.Item

/-!
# Excerpts

An excerpt shows the line in which a marked stretch of text begins, with a row
of carets under it.  A stretch over several lines is marked to the end of its
first.
-/

namespace Keyring
namespace Toml

structure Excerpt where
  /-- The number of the line, from one. -/
  line : Nat
  /-- How far into the line the mark begins. -/
  column : Nat
  content : String
  width : Nat
  deriving DecidableEq, Repr

def lastLine (text : List Char) : List Char :=
  (text.reverse.takeWhile (· != '\n')).reverse

namespace Excerpt

/-- Columns count characters, unless a character of several bytes is marked
first: then they count bytes. -/
def columnOf (before marked : List Char) : Nat :=
  match marked with
  | c :: _ => if c.utf8Size = 1 then before.length else Text.byteSize before
  | [] => before.length

def ofSpan (source : List Char) (span : Span) : Excerpt :=
  let before := source.take (source.length - span.start.length)
  let content := lastLine before ++ span.start.takeWhile (· != '\n')
  let column := columnOf (lastLine before) span.start
  { line := before.count '\n' + 1
    column
    content := String.ofList content
    width := max 1 (min span.size (Text.byteSize content - column)) }

/-- The excerpt as text, each line with its end. -/
def text (excerpt : Excerpt) : String :=
  let number := toString excerpt.line
  let margin := String.ofList (List.replicate (number.length + 1) ' ') ++ "|"
  "TOML parse error at line " ++ number ++ ", column " ++ toString (excerpt.column + 1) ++ "\n" ++
    margin ++ "\n" ++
    number ++ " | " ++ excerpt.content ++ "\n" ++
    margin ++ String.ofList (List.replicate (excerpt.column + 1) ' ') ++
    String.ofList (List.replicate excerpt.width '^') ++ "\n"

end Excerpt
end Toml
end Keyring
