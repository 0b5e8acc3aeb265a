import Keyring.Json.Token
import Keyring.Proofs.JsonNumbers
import Mathlib.Tactic

/-!
# Texts that are made of tokens

Lexemes are tokens as they are written, with every way to write them.  White
space may stand before, between and after them.  The tokens of such a text are
those of its lexemes, unless two numbers stand side by side.
-/

namespace Keyring
namespace Json

/-- The letters that stand for a character after a backslash. -/
def shortEscapes : List (Char × Char) :=
  [('"', '"'), ('\\', '\\'), ('/', '/'), ('b', '\x08'), ('f', '\x0c'), ('n', '\n'),
    ('r', '\r'), ('t', '\t')]

def IsPlain (c : Char) : Prop :=
  0x20 ≤ c.toNat ∧ c ≠ '"' ∧ c ≠ '\\'

instance : DecidablePred IsPlain := fun c =>
  inferInstanceAs (Decidable (0x20 ≤ c.toNat ∧ c ≠ '"' ∧ c ≠ '\\'))

/-- One step in a string: a character as it is, after a backslash, or by four digits. -/
inductive Part where
  | plain (c : Char) (isPlain : IsPlain c)
  | short (letter c : Char) (listed : (letter, c) ∈ shortEscapes)
  | unit (a b c d : Char) (hex : ∀ x ∈ [a, b, c, d], Text.isHexDigit x = true)

abbrev Literal := List Part

namespace Part

def chars : Part → List Char
  | .plain c _ => [c]
  | .short letter _ _ => ['\\', letter]
  | .unit a b c d _ => ['\\', 'u', a, b, c, d]

def piece : Part → Piece
  | .plain c _ => .char c
  | .short _ c _ => .char c
  | .unit a b c d _ => .unit (Text.digitsValue 16 [a, b, c, d])

variable {rest rest' : List Char} {pieces : List Piece}

theorem unescape?_of_listed {letter c : Char} (hlisted : (letter, c) ∈ shortEscapes) :
    letter ≠ 'u' ∧ unescape? letter = some c := by
  simp only [shortEscapes, List.mem_cons, Prod.mk.injEq, List.not_mem_nil, or_false] at hlisted
  rcases hlisted with ⟨rfl, rfl⟩ | ⟨rfl, rfl⟩ | ⟨rfl, rfl⟩ | ⟨rfl, rfl⟩ | ⟨rfl, rfl⟩ |
    ⟨rfl, rfl⟩ | ⟨rfl, rfl⟩ | ⟨rfl, rfl⟩ <;> exact ⟨by decide, rfl⟩

theorem scanPieces_append (part : Part) (hrest : scanPieces rest = some (pieces, rest')) :
    scanPieces (part.chars ++ rest) = some (part.piece :: pieces, rest') := by
  cases part with
  | plain c isPlain =>
      obtain ⟨hlow, hquote, hbackslash⟩ := isPlain
      simp [chars, piece, scanPieces, hbackslash, hrest]
      omega
  | short letter c listed =>
      obtain ⟨hletter, hmeans⟩ := unescape?_of_listed listed
      simp [chars, piece, scanPieces, hletter, hmeans, hrest]
  | unit a b c d hex =>
      have hcode : Text.hexNumber? [a, b, c, d] = some (Text.digitsValue 16 [a, b, c, d]) := by
        simpa [Text.hexNumber?] using hex
      simp [chars, piece, scanPieces, hcode, hrest]

end Part

namespace Literal

variable (literal : Literal)

def chars : List Char :=
  '"' :: (literal.flatMap Part.chars ++ ['"'])

def text? : Option String :=
  (joinPieces (literal.map Part.piece)).map String.ofList

theorem scanPieces_append (rest : List Char) :
    scanPieces (literal.flatMap Part.chars ++ '"' :: rest) =
      some (literal.map Part.piece, rest) := by
  induction literal with
  | nil => simp [scanPieces]
  | cons part parts ih => simpa using part.scanPieces_append ih

end Literal

/-- The literals for a text.  A character beyond the first plane is two units. -/
inductive Spells : List Char → Literal → Prop
  | nil : Spells [] []
  | char {c : Char} {part : Part} {text : List Char} {literal : Literal} :
      part.piece = .char c → Spells text literal → Spells (c :: text) (part :: literal)
  | unit {c : Char} {part : Part} {text : List Char} {literal : Literal} :
      part.piece = .unit c.toNat → Spells text literal → Spells (c :: text) (part :: literal)
  | pair {c : Char} {high low : Part} {text : List Char} {literal : Literal} :
      0x10000 ≤ c.toNat →
      high.piece = .unit (0xD800 + (c.toNat - 0x10000) / 0x400) →
      low.piece = .unit (0xDC00 + (c.toNat - 0x10000) % 0x400) →
      Spells text literal → Spells (c :: text) (high :: low :: literal)

theorem not_isSurrogate (c : Char) :
    isHighSurrogate c.toNat = false ∧ isLowSurrogate c.toNat = false := by
  have hvalid : c.toNat < 0xD800 ∨ 0xDFFF < c.toNat ∧ c.toNat < 0x110000 := c.valid
  simp only [isHighSurrogate, isLowSurrogate, Bool.and_eq_false_iff, decide_eq_false_iff_not]
  omega

theorem joinPieces_unit (c : Char) (pieces : List Piece) :
    joinPieces (.unit c.toNat :: pieces) = (joinPieces pieces).map (c :: ·) := by
  obtain ⟨hhigh, hlow⟩ := not_isSurrogate c
  -- A unit that is no half of a pair stands for itself, whatever the next piece is.
  cases pieces with
  | nil => simp [joinPieces, hhigh, hlow]
  | cons piece pieces => cases piece <;> simp [joinPieces, hhigh, hlow]

theorem joinPieces_pair {c : Char} (hbeyond : 0x10000 ≤ c.toNat) (pieces : List Piece) :
    joinPieces (.unit (0xD800 + (c.toNat - 0x10000) / 0x400) ::
        .unit (0xDC00 + (c.toNat - 0x10000) % 0x400) :: pieces) =
      (joinPieces pieces).map (c :: ·) := by
  have hvalid : c.toNat < 0xD800 ∨ 0xDFFF < c.toNat ∧ c.toNat < 0x110000 := c.valid
  have hhigh : isHighSurrogate (0xD800 + (c.toNat - 0x10000) / 0x400) = true := by
    simp only [isHighSurrogate, Bool.and_eq_true, decide_eq_true_eq]
    omega
  have hlow : isLowSurrogate (0xDC00 + (c.toNat - 0x10000) % 0x400) = true := by
    simp only [isLowSurrogate, Bool.and_eq_true, decide_eq_true_eq]
    omega
  have hcode : 0x10000 + (0xD800 + (c.toNat - 0x10000) / 0x400 - 0xD800) * 0x400 +
      (0xDC00 + (c.toNat - 0x10000) % 0x400 - 0xDC00) = c.toNat := by
    omega
  rw [joinPieces, hhigh, hlow, hcode, Char.ofNat_toNat]
  rfl

theorem Spells.joinPieces {text : List Char} {literal : Literal} (hspells : Spells text literal) :
    joinPieces (literal.map Part.piece) = some text := by
  induction hspells with
  | nil => rfl
  | char hpiece _ ih => simp [hpiece, Json.joinPieces, ih]
  | unit hpiece _ ih => simp [hpiece, joinPieces_unit, ih]
  | pair hbeyond hhigh hlow _ ih => simp [hhigh, hlow, joinPieces_pair hbeyond, ih]

theorem Spells.text? {text : String} {literal : Literal} (hspells : Spells text.toList literal) :
    literal.text? = some text := by
  simp [Literal.text?, hspells.joinPieces]

namespace Literal

def plain (text : List Char) (hplain : ∀ c ∈ text, IsPlain c) : Literal :=
  text.pmap Part.plain hplain

theorem chars_plain (text : List Char) (hplain : ∀ c ∈ text, IsPlain c) :
    (plain text hplain).chars = '"' :: (text ++ ['"']) := by
  have hchars : (plain text hplain).flatMap Part.chars = text := by
    induction text with
    | nil => rfl
    | cons c text ih => simpa [plain, Part.chars] using ih (List.forall_mem_cons.mp hplain).2
  rw [chars, hchars]

theorem spells_plain (text : List Char) (hplain : ∀ c ∈ text, IsPlain c) :
    Spells text (plain text hplain) := by
  induction text with
  | nil => exact .nil
  | cons c text ih => exact .char rfl (ih (List.forall_mem_cons.mp hplain).2)

end Literal

inductive Lexeme where
  | openBrace
  | closeBrace
  | openBracket
  | closeBracket
  | comma
  | colon
  | null
  | boolean (value : Bool)
  | number (written : NumberText)
  | text (literal : Literal)

namespace Lexeme

def chars : Lexeme → List Char
  | .openBrace => ['\x7b']
  | .closeBrace => ['\x7d']
  | .openBracket => ['[']
  | .closeBracket => [']']
  | .comma => [',']
  | .colon => [':']
  | .null => ['n', 'u', 'l', 'l']
  | .boolean true => ['t', 'r', 'u', 'e']
  | .boolean false => ['f', 'a', 'l', 's', 'e']
  | .number written => written.chars
  | .text literal => literal.chars

def token : Lexeme → Token
  | .openBrace => .openBrace
  | .closeBrace => .closeBrace
  | .openBracket => .openBracket
  | .closeBracket => .closeBracket
  | .comma => .comma
  | .colon => .colon
  | .null => .null
  | .boolean value => .boolean value
  | .number written => .number written.numeral
  | .text literal => .text literal.text?

def IsNumber : Lexeme → Prop
  | .number _ => True
  | _ => False

end Lexeme

def blanks : List Char := [' ', '\t', '\n', '\r']

/-- Lexemes with any white space around them. -/
inductive Spaced : List Lexeme → List Char → Prop
  | nil {gap : List Char} : gap ⊆ blanks → Spaced [] gap
  | cons {gap : List Char} {lexeme : Lexeme} {lexemes : List Lexeme} {text : List Char} :
      gap ⊆ blanks → Spaced lexemes text →
        Spaced (lexeme :: lexemes) (gap ++ (lexeme.chars ++ text))

def Separated : List Lexeme → Prop :=
  List.IsChain fun lexeme next => ¬ (lexeme.IsNumber ∧ next.IsNumber)

theorem isSpace_iff (c : Char) : isSpace c = true ↔ c ∈ blanks := by
  simp [isSpace, blanks]
  tauto

theorem endsNumber_of_blank {c : Char} (hblank : c ∈ blanks) (rest : List Char) :
    EndsNumber (c :: rest) := by
  simp only [blanks, List.mem_cons, List.not_mem_nil, or_false] at hblank
  rcases hblank with rfl | rfl | rfl | rfl <;> simp [EndsNumber]

theorem isSpace_of_begins {first : Char} (hfirst : (first == '-' || first.isDigit) = true) :
    isSpace first = false := by
  refine Bool.eq_false_iff.mpr fun hspace => ?_
  have hblank := (isSpace_iff first).mp hspace
  simp only [blanks, List.mem_cons, List.not_mem_nil, or_false] at hblank
  rcases hblank with rfl | rfl | rfl | rfl <;> cases hfirst

theorem Token.scan_of_begins {first : Char} (hfirst : (first == '-' || first.isDigit) = true)
    (rest : List Char) :
    Token.scan first rest =
      (scanNumeral (first :: rest)).map fun scanned => (.number scanned.1, scanned.2) := by
  unfold Token.scan
  split
  case h_11 => simp only [hfirst, if_true]
  all_goals cases hfirst

namespace Lexeme

theorem endsNumber_append {lexeme : Lexeme} (hother : ¬ lexeme.IsNumber) (rest : List Char) :
    EndsNumber (lexeme.chars ++ rest) := by
  cases lexeme with
  | number written => exact absurd trivial hother
  | boolean value => cases value <;> simp [chars, EndsNumber]
  | _ => simp [chars, Literal.chars, EndsNumber]

theorem exists_scan (lexeme : Lexeme) {rest : List Char}
    (hrest : lexeme.IsNumber → EndsNumber rest) :
    ∃ first more, lexeme.chars = first :: more ∧ isSpace first = false ∧
      Token.scan first (more ++ rest) = some (lexeme.token, rest) := by
  cases lexeme with
  | number written =>
      obtain ⟨first, more, hchars, hfirst⟩ := written.exists_cons
      have hscan := written.scanNumeral_append (hrest trivial)
      rw [hchars, List.cons_append] at hscan
      refine ⟨first, more, hchars, ?_, ?_⟩
      · exact isSpace_of_begins hfirst
      · rw [Token.scan_of_begins hfirst, hscan]
        rfl
  | text literal =>
      refine ⟨'"', literal.flatMap Part.chars ++ ['"'], rfl, rfl, ?_⟩
      simp [Token.scan, literal.scanPieces_append, token, Literal.text?]
  | boolean value => cases value <;> exact ⟨_, _, rfl, rfl, rfl⟩
  | _ => exact ⟨_, _, rfl, rfl, rfl⟩

end Lexeme

namespace Token

theorem ofText_blanks {gap : List Char} (hgap : gap ⊆ blanks) (rest : List Char) :
    ofText (gap ++ rest) = ofText rest := by
  induction gap with
  | nil => rfl
  | cons c gap ih =>
      obtain ⟨hc, hgap⟩ := List.cons_subset.mp hgap
      have hspace : isSpace c = true := (isSpace_iff c).mpr hc
      rw [List.cons_append, ofText, if_pos hspace, ih hgap]

theorem ofText_lexeme (lexeme : Lexeme) {rest : List Char}
    (hrest : lexeme.IsNumber → EndsNumber rest) :
    ofText (lexeme.chars ++ rest) = lexeme.token :: ofText rest := by
  obtain ⟨first, more, hchars, hspace, hscan⟩ := lexeme.exists_scan hrest
  rw [hchars, List.cons_append, ofText, if_neg (by simp [hspace])]
  split <;> simp_all

end Token

namespace Spaced

variable {lexemes : List Lexeme} {text : List Char}

theorem endsNumber (hspaced : Spaced lexemes text)
    (hfirst : ∀ lexeme ∈ lexemes.head?, ¬ lexeme.IsNumber) : EndsNumber text := by
  cases hspaced with
  | nil hgap =>
      cases text with
      | nil => simp [EndsNumber]
      | cons c gap => exact endsNumber_of_blank (hgap (by simp)) gap
  | @cons gap lexeme lexemes text hgap _ =>
      cases gap with
      | nil => exact Lexeme.endsNumber_append (hfirst lexeme rfl) text
      | cons c gap => exact endsNumber_of_blank (hgap (by simp)) _

theorem ofText (hspaced : Spaced lexemes text) (hseparated : Separated lexemes) :
    Token.ofText text = lexemes.map Lexeme.token := by
  induction hspaced with
  | nil hgap =>
      rename_i gap
      simpa [Token.ofText] using Token.ofText_blanks hgap []
  | @cons gap lexeme lexemes text hgap hspaced ih =>
      obtain ⟨hfirst, hseparated⟩ := List.isChain_cons.mp hseparated
      have hends : lexeme.IsNumber → EndsNumber text := fun hnumber =>
        hspaced.endsNumber fun next hnext hboth => hfirst next hnext ⟨hnumber, hboth⟩
      rw [Token.ofText_blanks hgap, Token.ofText_lexeme lexeme hends, ih hseparated,
        List.map_cons]

/-- The same white space before every lexeme and at the end. -/
theorem of_gap {gap : List Char} (hgap : gap ⊆ blanks) (lexemes : List Lexeme) :
    Spaced lexemes (lexemes.flatMap (fun lexeme => gap ++ lexeme.chars) ++ gap) := by
  induction lexemes with
  | nil => simpa using Spaced.nil hgap
  | cons lexeme lexemes ih => simpa using Spaced.cons hgap ih

end Spaced
end Json
end Keyring
