/-!
# Places in bytes

Places in a text are counted in bytes of UTF-8, of which a character takes one
to four.
-/

namespace Keyring
namespace Text

def byteSize (text : List Char) : Nat :=
  text.foldr (fun c size => c.utf8Size + size) 0

/-- Cuts a text after a number of bytes, and after the whole of a character that
the cut would divide. -/
def splitBytes (count : Nat) : List Char → List Char × List Char
  | [] => ([], [])
  | c :: rest =>
    if count = 0 then ([], c :: rest)
    else (c :: (splitBytes (count - c.utf8Size) rest).1, (splitBytes (count - c.utf8Size) rest).2)

/-- The part of a text between two places, if both lie in the text and neither
divides a character. -/
def slice? (text : List Char) (start stop : Nat) : Option (List Char) :=
  let (before, rest) := splitBytes start text
  let (part, _) := splitBytes (stop - start) rest
  if byteSize before = start && byteSize part = stop - start then some part else none

end Text
end Keyring
