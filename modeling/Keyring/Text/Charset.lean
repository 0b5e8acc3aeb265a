/-!
# Sets of characters

A property of characters is a list of intervals of code points, both ends
included.
-/

namespace Keyring
namespace Text

structure Charset where
  intervals : List (Nat × Nat)

namespace Charset

def contains (set : Charset) (c : Char) : Bool :=
  set.intervals.any fun interval => interval.1 ≤ c.toNat && c.toNat ≤ interval.2

end Charset
end Text
end Keyring
