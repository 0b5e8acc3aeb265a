import Keyring.Number.Shortest
import Keyring.Text.Quoted

/-!
# Complaints about values

A document can be well formed and still hold a value that does not fit its
setting.  A complaint says which value was met and what was wanted.
-/

namespace Keyring

/-- A value as a complaint speaks of it. -/
inductive Found where
  | boolean (value : Bool)
  | integer (value : Int)
  | real (value : Binary64)
  | text (value : String)
  | null
  | sequence
  | map
  deriving DecidableEq, Repr

namespace Found

def description (layout : NumberLayout) : Found → String
  | .boolean value => "boolean `" ++ (if value then "true" else "false") ++ "`"
  | .integer value => "integer `" ++ toString value ++ "`"
  | .real value => "floating point `" ++ layout.text value ++ "`"
  | .text value => "string " ++ Text.quote value
  | .null => "null"
  | .sequence => "sequence"
  | .map => "map"

end Found

inductive Complaint where
  | wrongType (found : Found) (wanted : String)
  | wrongValue (found : Found) (wanted : String)
  | unknownChoice (name : String) (choices : List String)
  | repeatedMember (name : String)
  | neitherTextNorTable
  | noElement
  | severalElements
  | notTable (kind : String)
  | tableNotEmpty
  | tablesNotEmpty
  deriving DecidableEq, Repr

namespace Complaint

/-- Names in back quotes, with `or` between them. -/
def alternatives (choices : List String) : String :=
  " or ".intercalate (choices.map fun choice => "`" ++ choice ++ "`")

def message (layout : NumberLayout) : Complaint → String
  | .wrongType found wanted =>
    "invalid type: " ++ found.description layout ++ ", expected " ++ wanted
  | .wrongValue found wanted =>
    "invalid value: " ++ found.description layout ++ ", expected " ++ wanted
  | .unknownChoice name choices =>
    "unknown variant `" ++ name ++ "`, expected " ++ alternatives choices
  | .repeatedMember name => "duplicate field `" ++ name ++ "`"
  | .neitherTextNorTable => "wanted string or table"
  | .noElement => "wanted exactly 1 element, found 0 elements"
  | .severalElements => "wanted exactly 1 element, more than 1 element"
  | .notTable kind => "expected table, found " ++ kind
  | .tableNotEmpty => "expected empty table"
  | .tablesNotEmpty => "expected empty array"

end Complaint
end Keyring
