import Keyring.Config
import Keyring.Event
import Keyring.Text.Blank
import Keyring.Text.LowerCase

/-!
# The mode flag of the environment

One variable can force the initial mode.  Its value is a flag: `1` or `true`,
`0` or `false`, in any case and between any white space.  A value that is no
flag is passed over with a warning.
-/

namespace Keyring

/-- The value of the variable in the environment of the program. -/
inductive Variable where
  | unset
  | text (value : String)
  /-- Bytes that are no text; they are passed over in silence. -/
  | undecodable
  deriving DecidableEq, Repr

def parseFlag (text : List Char) : Option Bool :=
  let core := Text.lower (Text.trim text)
  if core = "1".toList ∨ core = "true".toList then some true
  else if core = "0".toList ∨ core = "false".toList then some false
  else none

namespace Config

/-- Lets the variable decide the initial mode. -/
def applyVariable (config : Config) (override : Variable) : Reply Config Unit :=
  match override with
  | .unset | .undecodable => ⟨(), config, []⟩
  | .text value =>
    match parseFlag value.toList with
    | some temp => ⟨(), { config with startTemporary := temp }, []⟩
    | none => ⟨(), config, [.flagIgnored variableName value]⟩

end Config
end Keyring
