import Keyring.Config
import Keyring.Config.Complaint
import Keyring.Json.Skip

/-!
# Configuration as JSON

A configuration is an object with the settings as members, in any order, or an
array of their values in the order of declaration.  Members that are no setting
are passed over.  The text is read from left to right, and the first problem
that is met decides how reading fails.
-/

namespace Keyring
namespace Json

def numberLayout : NumberLayout where
  tie := .toEven
  positional := some (-5, 15)

inductive ReadFault where
  | malformed
  | unfit (complaint : Complaint)
  deriving DecidableEq, Repr

def Quantity.found : Quantity → Found
  | .natural value => .integer value
  | .negative value => .integer value
  | .real value => .real value

/-- How reading fails at a token that does not begin what is wanted. -/
def refuse (wanted : String) : Token → ReadFault
  | .null => .unfit (.wrongType .null wanted)
  | .boolean value => .unfit (.wrongType (.boolean value) wanted)
  | .number numeral =>
    match numeral.quantity? with
    | some quantity => .unfit (.wrongType quantity.found wanted)
    | none => .malformed
  | .text (some value) => .unfit (.wrongType (.text value) wanted)
  | .openBracket => .unfit (.wrongType .sequence wanted)
  | .openBrace => .unfit (.wrongType .map wanted)
  | _ => .malformed

/-- A reader takes a value from the front of the tokens. -/
abbrev Reader (α : Type) := List Token → Except ReadFault (α × List Token)

def readFlag : Reader Bool
  | [] => .error .malformed
  | .boolean value :: rest => .ok (value, rest)
  | token :: _ => .error (refuse "a boolean" token)

def readCapacity : Reader UInt64
  | [] => .error .malformed
  | .number numeral :: rest =>
    match numeral.quantity? with
    | some (.natural value) => .ok (UInt64.ofNat value, rest)
    | some (.negative value) => .error (.unfit (.wrongValue (.integer value) "usize"))
    | some (.real value) => .error (.unfit (.wrongType (.real value) "usize"))
    | none => .error .malformed
  | token :: _ => .error (refuse "usize" token)

/-- The end of a choice that is written as an object: a null value. -/
def readChoiceEnd {α : Type} (choice : α) : Reader α
  | .colon :: .null :: .closeBrace :: rest => .ok (choice, rest)
  | .colon :: .null :: _ => .error .malformed
  | .colon :: token :: _ => .error (refuse "unit" token)
  | _ => .error .malformed

/-- A choice by its name, alone or as the only member of an object. -/
def readChoice {α : Type} (name : α → String) (choices : List α) : Reader α
  | .text (some text) :: rest =>
    match choices.find? fun choice => name choice == text with
    | some choice => .ok (choice, rest)
    | none => .error (.unfit (.unknownChoice text (choices.map name)))
  | .openBrace :: .text (some text) :: rest =>
    match choices.find? fun choice => name choice == text with
    | some choice => readChoiceEnd choice rest
    | none => .error (.unfit (.unknownChoice text (choices.map name)))
  | _ => .error .malformed

def readPolicy : Reader WritePolicy := readChoice WritePolicy.name WritePolicy.all

def readMode : Reader Mode := readChoice Mode.name Mode.all

def readSetting (draft : Draft) : Setting → Reader Draft
  | .startTemporary, tokens =>
    (readFlag tokens).map fun (value, rest) => ({ draft with startTemporary := some value }, rest)
  | .defaultPolicy, tokens =>
    (readPolicy tokens).map fun (value, rest) => ({ draft with defaultPolicy := some value }, rest)
  | .queueCapacity, tokens =>
    (readCapacity tokens).map fun (value, rest) =>
      ({ draft with queueCapacity := some value }, rest)

def readMember (draft : Draft) (key : String) (tokens : List Token) :
    Except ReadFault (Draft × List Token) :=
  match Setting.ofName? key with
  | some setting =>
    if draft.has setting then .error (.unfit (.repeatedMember key))
    else
      match tokens with
      | .colon :: rest => readSetting draft setting rest
      | _ => .error .malformed
  | none =>
    match tokens with
    | .colon :: rest =>
      match skipValue rest with
      | some rest => .ok (draft, rest)
      | none => .error .malformed
    | _ => .error .malformed

theorem length_readChoiceEnd {α : Type} {choice value : α} {tokens rest : List Token}
    (h : readChoiceEnd choice tokens = .ok (value, rest)) : rest.length < tokens.length := by
  unfold readChoiceEnd at h
  split at h <;> simp at h
  simp [h.2]
  omega

theorem length_readChoice {α : Type} {name : α → String} {choices : List α} {value : α}
    {tokens rest : List Token} (h : readChoice name choices tokens = .ok (value, rest)) :
    rest.length < tokens.length := by
  unfold readChoice at h
  split at h
  · split at h <;> simp at h
    simp [h.2]
  · split at h
    · have hlt := length_readChoiceEnd h
      simp
      omega
    · simp at h
  · simp at h

theorem length_readFlag {value : Bool} {tokens rest : List Token}
    (h : readFlag tokens = .ok (value, rest)) : rest.length < tokens.length := by
  unfold readFlag at h
  split at h <;> simp at h
  simp [h.2]

theorem length_readCapacity {value : UInt64} {tokens rest : List Token}
    (h : readCapacity tokens = .ok (value, rest)) : rest.length < tokens.length := by
  unfold readCapacity at h
  split at h
  · simp at h
  · split at h <;> simp at h
    simp [h.2]
  · simp at h

theorem length_readSetting {draft draft' : Draft} {setting : Setting} {tokens rest : List Token}
    (h : readSetting draft setting tokens = .ok (draft', rest)) :
    rest.length < tokens.length := by
  unfold readSetting at h
  split at h
  · cases hread : readFlag tokens with
    | error fault => simp [hread, Except.map] at h
    | ok pair =>
      have hlt := length_readFlag hread
      simp [hread, Except.map] at h
      rwa [← h.2]
  · cases hread : readPolicy tokens with
    | error fault => simp [hread, Except.map] at h
    | ok pair =>
      have hlt := length_readChoice hread
      simp [hread, Except.map] at h
      rwa [← h.2]
  · cases hread : readCapacity tokens with
    | error fault => simp [hread, Except.map] at h
    | ok pair =>
      have hlt := length_readCapacity hread
      simp [hread, Except.map] at h
      rwa [← h.2]

theorem length_readMember {draft draft' : Draft} {key : String} {tokens rest : List Token}
    (h : readMember draft key tokens = .ok (draft', rest)) : rest.length < tokens.length := by
  unfold readMember at h
  split at h
  · split at h
    · simp at h
    · split at h
      · have hlt := length_readSetting h
        simp
        omega
      · simp at h
  · split at h
    · split at h
      · rename_i hskip
        have hlt := length_skip hskip
        simp at h
        rw [← h.2]
        simp
        omega
      · simp at h
    · simp at h

/-- The members of an object up to its closing brace.  A comma stands before
every member but the first. -/
def readMembers (isFirst : Bool) (draft : Draft) (tokens : List Token) :
    Except ReadFault (Draft × List Token) :=
  match tokens, isFirst with
  | .closeBrace :: rest, _ => .ok (draft, rest)
  | .text (some key) :: rest, true | .comma :: .text (some key) :: rest, false =>
    match _h : readMember draft key rest with
    | .ok (draft, rest) => readMembers false draft rest
    | .error fault => .error fault
  | _, _ => .error .malformed
termination_by tokens.length
decreasing_by
  all_goals
    have hlt := length_readMember _h
    simp
    omega

/-- The elements of an array up to its closing bracket: the values of the first
of the given settings, in their order. -/
def readElements (isFirst : Bool) (draft : Draft) (settings : List Setting)
    (tokens : List Token) : Except ReadFault (Draft × List Token) :=
  match settings, tokens, isFirst with
  | _, .closeBracket :: rest, _ => .ok (draft, rest)
  | setting :: settings, tokens, true =>
    match readSetting draft setting tokens with
    | .ok (draft, rest) => readElements false draft settings rest
    | .error fault => .error fault
  | _ :: _, .comma :: .closeBracket :: _, false => .error .malformed
  | setting :: settings, .comma :: tokens, false =>
    match readSetting draft setting tokens with
    | .ok (draft, rest) => readElements false draft settings rest
    | .error fault => .error fault
  | _, _, _ => .error .malformed

def readConfig : Reader Config
  | .openBrace :: rest =>
    (readMembers true {} rest).map fun (draft, rest) => (draft.complete, rest)
  | .openBracket :: rest =>
    (readElements true {} Setting.all rest).map fun (draft, rest) => (draft.complete, rest)
  | token :: _ => .error (refuse "struct CacheConfig" token)
  | [] => .error .malformed

/-- Reads a text that holds one value and nothing else. -/
def parse {α : Type} (reader : Reader α) (text : String) : Except ReadFault α :=
  match reader (Token.ofText text.toList) with
  | .ok (value, []) => .ok value
  | .ok _ => .error .malformed
  | .error fault => .error fault

/-- A name between quotes; it holds nothing that has to be escaped. -/
def writeName (name : String) : String :=
  "\"" ++ name ++ "\""

def writeFlag (value : Bool) : String :=
  if value then "true" else "false"

def writeMember (setting : Setting) (value : String) : String :=
  writeName setting.name ++ ":" ++ value

/-- The members in the order of declaration, without blanks. -/
def writeConfig (config : Config) : String :=
  "\x7b" ++ writeMember .startTemporary (writeFlag config.startTemporary) ++
    "," ++ writeMember .defaultPolicy (writeName config.defaultPolicy.name) ++
    "," ++ writeMember .queueCapacity (toString config.queueCapacity.toNat) ++ "\x7d"

end Json
end Keyring
