import Keyring.Json.Skip
import Keyring.Proofs.JsonLexemes
import Mathlib.Tactic

/-!
# Values and their texts

The grammar of values as trees.  A text of a value is its lexemes with any white
space between them.  Whatever the value, passing over it takes its tokens and
no more.
-/

namespace Keyring
namespace Json

inductive Value where
  | null
  | boolean (value : Bool)
  | number (written : NumberText)
  | text (literal : Literal)
  | array (elements : List Value)
  | object (members : List (Literal × Value))

/-- What stands before an element or a member. -/
def lead (isFirst : Bool) : List Lexeme :=
  if isFirst then [] else [.comma]

mutual

def Value.lexemes : Value → List Lexeme
  | .null => [.null]
  | .boolean value => [.boolean value]
  | .number written => [.number written]
  | .text literal => [.text literal]
  | .array elements => .openBracket :: (elementLexemes true elements ++ [.closeBracket])
  | .object members => .openBrace :: (memberLexemes true members ++ [.closeBrace])

def elementLexemes (isFirst : Bool) : List Value → List Lexeme
  | [] => []
  | value :: values => lead isFirst ++ (value.lexemes ++ elementLexemes false values)

def memberLexemes (isFirst : Bool) : List (Literal × Value) → List Lexeme
  | [] => []
  | (name, value) :: members =>
    lead isFirst ++ (.text name :: .colon :: (value.lexemes ++ memberLexemes false members))

end

/-- The texts of a value. -/
def Written (value : Value) (text : String) : Prop :=
  Spaced value.lexemes text.toList

def Value.tokens (value : Value) : List Token :=
  value.lexemes.map Lexeme.token

def elementTokens (isFirst : Bool) (values : List Value) : List Token :=
  (elementLexemes isFirst values).map Lexeme.token

def memberTokens (isFirst : Bool) (members : List (Literal × Value)) : List Token :=
  (memberLexemes isFirst members).map Lexeme.token

section Separation

/-- What may stand after a value. -/
structure Follows (rest : List Lexeme) : Prop where
  separated : Separated rest
  first : ∀ lexeme ∈ rest.head?, ¬ lexeme.IsNumber

namespace Follows

variable {rest : List Lexeme}

theorem nil : Follows [] := ⟨List.isChain_nil, by simp⟩

theorem cons (lexeme : Lexeme) (hother : ¬ lexeme.IsNumber) (hrest : Separated rest) :
    Follows (lexeme :: rest) where
  separated := List.isChain_cons.mpr ⟨fun _ _ hboth => hother hboth.1, hrest⟩
  first := by simpa using hother

theorem number (written : NumberText) (hrest : Follows rest) :
    Separated (.number written :: rest) :=
  List.isChain_cons.mpr ⟨fun next hnext hboth => hrest.first next hnext hboth.2, hrest.separated⟩

theorem lead (isFirst : Bool) (hrest : Separated rest) :
    Separated (lead isFirst ++ rest) := by
  cases isFirst with
  | true => exact hrest
  | false => exact (cons .comma id hrest).separated

theorem elements {values : List Value} (hrest : Follows rest)
    (hseparated : Separated (elementLexemes false values ++ rest)) :
    Follows (elementLexemes false values ++ rest) := by
  refine ⟨hseparated, ?_⟩
  cases values with
  | nil => exact hrest.first
  | cons value values => simp [elementLexemes, Json.lead, Lexeme.IsNumber]

theorem members {members : List (Literal × Value)} (hrest : Follows rest)
    (hseparated : Separated (memberLexemes false members ++ rest)) :
    Follows (memberLexemes false members ++ rest) := by
  refine ⟨hseparated, ?_⟩
  cases members with
  | nil => exact hrest.first
  | cons member members => simp [memberLexemes, Json.lead, Lexeme.IsNumber]

end Follows

mutual

theorem Value.separated_append (value : Value) {rest : List Lexeme} (hrest : Follows rest) :
    Separated (value.lexemes ++ rest) := by
  cases value with
  | number written => exact hrest.number written
  | array elements =>
      have hclose : Follows (.closeBracket :: rest) := .cons _ id hrest.separated
      have hbody := separated_elements true elements hclose
      simpa [Value.lexemes] using (Follows.cons .openBracket id hbody).separated
  | object members =>
      have hclose : Follows (.closeBrace :: rest) := .cons _ id hrest.separated
      have hbody := separated_members true members hclose
      simpa [Value.lexemes] using (Follows.cons .openBrace id hbody).separated
  | _ => exact (Follows.cons _ id hrest.separated).separated

theorem separated_elements (isFirst : Bool) (values : List Value) {rest : List Lexeme}
    (hrest : Follows rest) : Separated (elementLexemes isFirst values ++ rest) := by
  cases values with
  | nil => exact hrest.separated
  | cons value values =>
      have htail := hrest.elements (separated_elements false values hrest)
      simpa [elementLexemes] using Follows.lead isFirst (value.separated_append htail)

theorem separated_members (isFirst : Bool) (members : List (Literal × Value))
    {rest : List Lexeme} (hrest : Follows rest) :
    Separated (memberLexemes isFirst members ++ rest) := by
  match members with
  | [] => exact hrest.separated
  | (name, value) :: members =>
      have htail := hrest.members (separated_members false members hrest)
      have hcolon : Follows (.colon :: (value.lexemes ++ (memberLexemes false members ++ rest))) :=
        .cons _ id (value.separated_append htail)
      have hname : Follows (.text name :: .colon ::
          (value.lexemes ++ (memberLexemes false members ++ rest))) := .cons _ id hcolon.separated
      simpa [memberLexemes] using Follows.lead isFirst hname.separated

end

theorem Value.separated (value : Value) : Separated value.lexemes := by
  simpa using value.separated_append .nil

theorem Written.tokens {value : Value} {text : String} (hwritten : Written value text) :
    Token.ofText text.toList = value.tokens :=
  Spaced.ofText hwritten value.separated

end Separation

section Tokens

@[simp] theorem elementTokens_nil (isFirst : Bool) : elementTokens isFirst [] = [] := rfl

@[simp] theorem memberTokens_nil (isFirst : Bool) : memberTokens isFirst [] = [] := rfl

@[simp] theorem elementTokens_first (value : Value) (values : List Value) :
    elementTokens true (value :: values) = value.tokens ++ elementTokens false values := by
  simp [elementTokens, elementLexemes, lead, Value.tokens]

@[simp] theorem elementTokens_next (value : Value) (values : List Value) :
    elementTokens false (value :: values) =
      .comma :: (value.tokens ++ elementTokens false values) := by
  simp [elementTokens, elementLexemes, lead, Value.tokens, Lexeme.token]

@[simp] theorem memberTokens_first (name : Literal) (value : Value)
    (members : List (Literal × Value)) :
    memberTokens true ((name, value) :: members) =
      .text name.text? :: .colon :: (value.tokens ++ memberTokens false members) := by
  simp [memberTokens, memberLexemes, lead, Value.tokens, Lexeme.token]

@[simp] theorem memberTokens_next (name : Literal) (value : Value)
    (members : List (Literal × Value)) :
    memberTokens false ((name, value) :: members) =
      .comma :: .text name.text? :: .colon :: (value.tokens ++ memberTokens false members) := by
  simp [memberTokens, memberLexemes, lead, Value.tokens, Lexeme.token]

namespace Value

@[simp] theorem tokens_null : tokens .null = [.null] := rfl

@[simp] theorem tokens_boolean (value : Bool) : tokens (.boolean value) = [.boolean value] := rfl

@[simp] theorem tokens_number (written : NumberText) :
    tokens (.number written) = [.number written.numeral] := rfl

@[simp] theorem tokens_text (literal : Literal) : tokens (.text literal) = [.text literal.text?] :=
  rfl

@[simp] theorem tokens_array (elements : List Value) :
    tokens (.array elements) =
      .openBracket :: (elementTokens true elements ++ [.closeBracket]) := by
  simp [tokens, lexemes, elementTokens, Lexeme.token]

@[simp] theorem tokens_object (members : List (Literal × Value)) :
    tokens (.object members) = .openBrace :: (memberTokens true members ++ [.closeBrace]) := by
  simp [tokens, lexemes, memberTokens, Lexeme.token]

end Value

end Tokens

section Skipping

/-- Where passing over goes on once a value is over. -/
def resume (enclosing : List Enclosure) (rest : List Token) : Option (List Token) :=
  match enclosing with
  | [] => some rest
  | _ :: _ => skip .separator enclosing rest

variable {enclosing : List Enclosure} {rest : List Token}

theorem skip_closeBracket {place : Place} (hplace : place = .element ∨ place = .separator) :
    skip place (.array :: enclosing) (.closeBracket :: rest) = resume enclosing rest := by
  rcases hplace with rfl | rfl <;> cases enclosing <;> simp [skip, resume]

theorem skip_closeBrace {place : Place} (hplace : place = .member ∨ place = .separator) :
    skip place (.object :: enclosing) (.closeBrace :: rest) = resume enclosing rest := by
  rcases hplace with rfl | rfl <;> cases enclosing <;> simp [skip, resume]

def elementPlace (isFirst : Bool) : Place :=
  if isFirst then .element else .separator

def memberPlace (isFirst : Bool) : Place :=
  if isFirst then .member else .separator

theorem skip_element (value : Value) (rest : List Token) :
    skip .element (.array :: enclosing) (value.tokens ++ rest) =
      skip .value (.array :: enclosing) (value.tokens ++ rest) := by
  cases value <;> simp [skip]

mutual

theorem skip_value (value : Value) (enclosing : List Enclosure) (rest : List Token) :
    skip .value enclosing (value.tokens ++ rest) = resume enclosing rest := by
  cases value with
  | array elements =>
      have hbody := skip_elements true elements enclosing rest
      simpa [skip, elementPlace] using hbody
  | object members =>
      have hbody := skip_members true members enclosing rest
      simpa [skip, memberPlace] using hbody
  | _ => cases enclosing <;> simp [skip, resume]

theorem skip_elements (isFirst : Bool) (values : List Value) (enclosing : List Enclosure)
    (rest : List Token) :
    skip (elementPlace isFirst) (.array :: enclosing)
      (elementTokens isFirst values ++ .closeBracket :: rest) = resume enclosing rest := by
  match values with
  | [] =>
      refine skip_closeBracket ?_
      cases isFirst <;> simp [elementPlace]
  | value :: values =>
      have hvalue := skip_value value (.array :: enclosing)
        (elementTokens false values ++ .closeBracket :: rest)
      have htail := skip_elements false values enclosing rest
      cases isFirst with
      | true => simpa [elementPlace, skip_element, hvalue, resume] using htail
      | false => simpa [elementPlace, skip, hvalue, resume] using htail

theorem skip_members (isFirst : Bool) (members : List (Literal × Value))
    (enclosing : List Enclosure) (rest : List Token) :
    skip (memberPlace isFirst) (.object :: enclosing)
      (memberTokens isFirst members ++ .closeBrace :: rest) = resume enclosing rest := by
  match members with
  | [] =>
      refine skip_closeBrace ?_
      cases isFirst <;> simp [memberPlace]
  | (name, value) :: members =>
      have hvalue := skip_value value (.object :: enclosing)
        (memberTokens false members ++ .closeBrace :: rest)
      have htail := skip_members false members enclosing rest
      cases isFirst <;> simpa [memberPlace, skip, hvalue, resume] using htail

end

theorem skipValue_tokens (value : Value) (rest : List Token) :
    skipValue (value.tokens ++ rest) = some rest :=
  skip_value value [] rest

end Skipping
end Json
end Keyring
