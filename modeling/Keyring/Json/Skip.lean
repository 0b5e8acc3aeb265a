import Keyring.Json.Token

/-!
# Passing over a value

A value that nobody asks for is passed over token by token, at any depth, with
the brackets that are still open kept aside.
-/

namespace Keyring
namespace Json

inductive Enclosure where
  | array
  | object
  deriving DecidableEq, Repr

/-- What may stand at the next place. -/
inductive Place where
  | value
  /-- A first element, or the end of an array. -/
  | element
  | key
  /-- A first key, or the end of an object. -/
  | member
  | colon
  /-- A comma, or the end of what is open. -/
  | separator
  deriving DecidableEq, Repr

/-- The tokens after the value, if there is one. -/
def skip (place : Place) (enclosing : List Enclosure) (tokens : List Token) :
    Option (List Token) :=
  match tokens with
  | [] => none
  | token :: rest =>
    match place, token, enclosing with
    | .element, .closeBracket, [_] | .member, .closeBrace, [_] => some rest
    | .element, .closeBracket, _ :: outer | .member, .closeBrace, _ :: outer =>
      skip .separator outer rest
    | .separator, .comma, .array :: _ => skip .value enclosing rest
    | .separator, .comma, .object :: _ => skip .key enclosing rest
    | .separator, .closeBracket, [.array] | .separator, .closeBrace, [.object] => some rest
    | .separator, .closeBracket, .array :: outer
    | .separator, .closeBrace, .object :: outer => skip .separator outer rest
    | .key, .text _, _ | .member, .text _, _ => skip .colon enclosing rest
    | .colon, .colon, _ => skip .value enclosing rest
    | .value, .openBracket, _ | .element, .openBracket, _ =>
      skip .element (.array :: enclosing) rest
    | .value, .openBrace, _ | .element, .openBrace, _ => skip .member (.object :: enclosing) rest
    | .value, .null, [] | .value, .boolean _, [] | .value, .number _, []
    | .value, .text _, [] => some rest
    | .value, .null, _ | .value, .boolean _, _ | .value, .number _, _ | .value, .text _, _
    | .element, .null, _ | .element, .boolean _, _ | .element, .number _, _
    | .element, .text _, _ => skip .separator enclosing rest
    | _, _, _ => none

def skipValue (tokens : List Token) : Option (List Token) :=
  skip .value [] tokens

theorem length_skip {place : Place} {enclosing : List Enclosure} {tokens rest : List Token}
    (h : skip place enclosing tokens = some rest) : rest.length < tokens.length := by
  induction tokens generalizing place enclosing with
  | nil => simp [skip] at h
  | cons token tail ih =>
    have hstep {place' : Place} {enclosing' : List Enclosure}
        (h' : skip place' enclosing' tail = some rest) :
        rest.length < (token :: tail).length := by
      have hlt := ih h'
      simp
      omega
    unfold skip at h
    split at h <;> first
      | exact hstep h
      | simp_all

end Json
end Keyring
