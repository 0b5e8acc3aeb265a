import Keyring.Json.Numeral

/-!
# Tokens of JSON

A text is cut into tokens from left to right, up to the first place where no
token begins.  A string token holds its text unless it names one half of a
surrogate pair alone; such a string may be passed over, but it cannot be read.
-/

namespace Keyring
namespace Json

inductive Token where
  | openBrace
  | closeBrace
  | openBracket
  | closeBracket
  | comma
  | colon
  | null
  | boolean (value : Bool)
  | number (numeral : Numeral)
  | text (value : Option String)
  /-- No token begins here. -/
  | invalid
  deriving DecidableEq, Repr

def isSpace (c : Char) : Bool :=
  c == ' ' || c == '\n' || c == '\t' || c == '\r'

def unescape? : Char → Option Char
  | '"' => some '"'
  | '\\' => some '\\'
  | '/' => some '/'
  | 'b' => some '\x08'
  | 'f' => some '\x0c'
  | 'n' => some '\n'
  | 'r' => some '\r'
  | 't' => some '\t'
  | _ => none

/-- A part of a string: a character, or a unit of 16 bits given by its number. -/
inductive Piece where
  | char (c : Char)
  | unit (code : Nat)
  deriving DecidableEq, Repr

/-- The pieces up to the closing quote, and what follows it. -/
def scanPieces : List Char → Option (List Piece × List Char)
  | [] => none
  | '"' :: rest => some ([], rest)
  | '\\' :: 'u' :: a :: b :: c :: d :: rest =>
    match Text.hexNumber? [a, b, c, d], scanPieces rest with
    | some code, some (pieces, rest) => some (.unit code :: pieces, rest)
    | _, _ => none
  | '\\' :: letter :: rest =>
    match unescape? letter, scanPieces rest with
    | some c, some (pieces, rest) => some (.char c :: pieces, rest)
    | _, _ => none
  | c :: rest =>
    if c.toNat < 0x20 || c == '\\' then none
    else (scanPieces rest).map fun (pieces, rest) => (.char c :: pieces, rest)

def isHighSurrogate (code : Nat) : Bool := 0xD800 ≤ code && code ≤ 0xDBFF

def isLowSurrogate (code : Nat) : Bool := 0xDC00 ≤ code && code ≤ 0xDFFF

/-- The text of the pieces; halves of a pair have to stand side by side. -/
def joinPieces : List Piece → Option (List Char)
  | [] => some []
  | .char c :: rest => (joinPieces rest).map (c :: ·)
  | .unit high :: .unit low :: rest =>
    if isHighSurrogate high && isLowSurrogate low then
      (joinPieces rest).map (Char.ofNat (0x10000 + (high - 0xD800) * 0x400 + (low - 0xDC00)) :: ·)
    else if isHighSurrogate high || isLowSurrogate high then none
    else (joinPieces (.unit low :: rest)).map (Char.ofNat high :: ·)
  | .unit code :: rest =>
    if isHighSurrogate code || isLowSurrogate code then none
    else (joinPieces rest).map (Char.ofNat code :: ·)

def dropWord? (word : List Char) (text : List Char) : Option (List Char) :=
  if word.isPrefixOf text then some (text.drop word.length) else none

namespace Token

/-- The token that begins with a character, and what follows it. -/
def scan (first : Char) (rest : List Char) : Option (Token × List Char) :=
  match first with
  | '\x7b' => some (.openBrace, rest)
  | '\x7d' => some (.closeBrace, rest)
  | '[' => some (.openBracket, rest)
  | ']' => some (.closeBracket, rest)
  | ',' => some (.comma, rest)
  | ':' => some (.colon, rest)
  | 'n' => (dropWord? ['u', 'l', 'l'] rest).map (Token.null, ·)
  | 't' => (dropWord? ['r', 'u', 'e'] rest).map (Token.boolean true, ·)
  | 'f' => (dropWord? ['a', 'l', 's', 'e'] rest).map (Token.boolean false, ·)
  | '"' => (scanPieces rest).map fun (pieces, rest) =>
      (.text ((joinPieces pieces).map String.ofList), rest)
  | _ =>
    if first == '-' || first.isDigit then
      (scanNumeral (first :: rest)).map fun (numeral, rest) => (.number numeral, rest)
    else none

end Token

theorem length_scanPieces {text rest : List Char} {pieces : List Piece}
    (h : scanPieces text = some (pieces, rest)) : rest.length < text.length := by
  fun_induction scanPieces text generalizing pieces rest with
  | case1 => simp at h
  | case2 => simp_all
  | case3 a b c d tail code pieces' rest' hpieces hcode ih =>
    have hshort := ih hpieces
    simp only [Option.some.injEq, Prod.mk.injEq] at h
    simp only [← h.2, List.length_cons]
    omega
  | case4 => simp at h
  | case5 letter tail c pieces' rest' hletter hpieces =>
    rename_i hu ih
    have hshort := ih hpieces
    simp only [Option.some.injEq, Prod.mk.injEq] at h
    simp only [← h.2, List.length_cons]
    omega
  | case6 => simp at h
  | case7 => simp at h
  | case8 =>
    rename_i ih
    obtain ⟨⟨pieces', rest'⟩, hpieces, heq⟩ := Option.map_eq_some_iff.1 h
    have hshort := ih hpieces
    simp only [Prod.mk.injEq] at heq
    simp only [← heq.2, List.length_cons]
    omega

theorem length_scanDigits {text digits rest : List Char}
    (h : scanDigits text = some (digits, rest)) : rest.length < text.length := by
  unfold scanDigits at h
  split at h
  · simp at h
  · rename_i hne
    have hsplit : text.takeWhile Char.isDigit ++ text.dropWhile Char.isDigit = text :=
      List.takeWhile_append_dropWhile
    have hlength := congrArg List.length hsplit
    simp only [Option.some.injEq, Prod.mk.injEq] at h
    rw [← h.2]
    cases hdigits : text.takeWhile Char.isDigit with
    | nil => simp [hdigits] at hne
    | cons digit more =>
      simp [hdigits] at hlength
      omega

theorem length_scanExponent {text rest : List Char} {power : Int}
    (h : scanExponent text = some (power, rest)) : rest.length ≤ text.length := by
  unfold scanExponent at h
  split at h
  · rename_i digits rest' hdigits
    have hlt := length_scanDigits hdigits
    have hle := Text.length_splitSign text
    simp only [Option.some.injEq, Prod.mk.injEq] at h
    rw [← h.2]
    omega
  · simp at h

theorem length_scanFraction {text rest digits : List Char}
    (h : scanFraction text = some (digits, rest)) : rest.length ≤ text.length := by
  unfold scanFraction at h
  split at h
  · have hlt := length_scanDigits h
    simp
    omega
  · simp at h
    simp [h.2]

theorem length_scanPower {text rest : List Char} {power : Option Int}
    (h : scanPower text = some (power, rest)) : rest.length ≤ text.length := by
  have hletter {tail : List Char}
      (htail : (scanExponent tail).map (fun scanned => (some scanned.1, scanned.2)) =
        some (power, rest)) : rest.length ≤ tail.length := by
    obtain ⟨⟨power', rest'⟩, hscan, heq⟩ := Option.map_eq_some_iff.1 htail
    have hle := length_scanExponent hscan
    simp only [Prod.mk.injEq] at heq
    rw [← heq.2]
    exact hle
  unfold scanPower at h
  split at h
  · have hle := hletter h
    simp
    omega
  · have hle := hletter h
    simp
    omega
  · simp at h
    simp [h.2]

theorem length_scanMagnitude {text rest : List Char} {negative : Bool} {numeral : Numeral}
    (h : scanMagnitude negative text = some (numeral, rest)) : rest.length < text.length := by
  unfold scanMagnitude at h
  obtain ⟨⟨whole, rest₁⟩, hwhole, h⟩ := Option.bind_eq_some_iff.1 h
  obtain ⟨⟨⟩, -, h⟩ := Option.bind_eq_some_iff.1 h
  obtain ⟨⟨fraction, rest₂⟩, hfraction, h⟩ := Option.bind_eq_some_iff.1 h
  obtain ⟨⟨exponent, rest₃⟩, hpower, h⟩ := Option.bind_eq_some_iff.1 h
  have heq := Option.some.inj h
  have hlt := length_scanDigits hwhole
  have hle := length_scanFraction hfraction
  have hle' := length_scanPower hpower
  simp only [Prod.mk.injEq] at heq
  rw [← heq.2]
  omega

theorem length_scanNumeral {text rest : List Char} {numeral : Numeral}
    (h : scanNumeral text = some (numeral, rest)) : rest.length < text.length := by
  unfold scanNumeral at h
  split at h
  · have hlt := length_scanMagnitude h
    simp
    omega
  · exact length_scanMagnitude h

theorem length_dropWord? {word text rest : List Char}
    (h : dropWord? word text = some rest) : rest.length ≤ text.length := by
  unfold dropWord? at h
  split at h <;> simp at h
  simp [← h]

namespace Token

theorem length_scan {first : Char} {text rest : List Char} {token : Token}
    (h : scan first text = some (token, rest)) : rest.length ≤ text.length := by
  unfold scan at h
  split at h
  · simp_all
  · simp_all
  · simp_all
  · simp_all
  · simp_all
  · simp_all
  · obtain ⟨rest', hword, heq⟩ := Option.map_eq_some_iff.1 h
    have hle := length_dropWord? hword
    grind
  · obtain ⟨rest', hword, heq⟩ := Option.map_eq_some_iff.1 h
    have hle := length_dropWord? hword
    grind
  · obtain ⟨rest', hword, heq⟩ := Option.map_eq_some_iff.1 h
    have hle := length_dropWord? hword
    grind
  · obtain ⟨⟨pieces, rest'⟩, hscan, heq⟩ := Option.map_eq_some_iff.1 h
    have hlt := length_scanPieces hscan
    grind
  · split at h
    · obtain ⟨⟨numeral, rest'⟩, hscan, heq⟩ := Option.map_eq_some_iff.1 h
      have hlt := length_scanNumeral hscan
      simp at hlt
      grind
    · simp at h

def ofText (text : List Char) : List Token :=
  match text with
  | [] => []
  | first :: rest =>
    if isSpace first then ofText rest
    else
      match _h : scan first rest with
      | some (token, rest') => token :: ofText rest'
      | none => [.invalid]
termination_by text.length
decreasing_by
  · simp
  · have hle := length_scan _h
    simp
    omega

end Token
end Json
end Keyring
