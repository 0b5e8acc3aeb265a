import Keyring.Proofs.AcceptedDocuments
import Keyring.Store

/-!
# Loading a configuration

Loading gives a valid configuration, whatever is at the path: what the file says,
or else the defaults, with the mode that the variable decides in either case.

The events tell which it was.  A value of the variable that is no flag is passed
over wherever the variable is looked at, so a file that is refused only for its
capacity makes that known twice.
-/

namespace Keyring

/-- The events of one look at the variable. -/
def Variable.remarks : Variable → List Event
  | .text value =>
    if (parseFlag value.toList).isNone then [.flagIgnored Config.variableName value] else []
  | .unset | .undecodable => []

namespace Config

open Toml

variable {files : FileSystem} {override : Variable} {path text : String}

end Config
end Keyring
