import Keyring.Proofs.DigitTexts
import Keyring.Text.Quoted
import Mathlib.Tactic

/-!
# Reading quoted text back

What a character is written as between quotes tells the character and ends by
itself, and no character is written so that it begins like the closing quote.
So a quoted text can be cut off the front of whatever follows it, and no two
texts are quoted alike.
-/

namespace Keyring
namespace Text

theorem eq_of_escapeLetter? {c d letter : Char}
    (hc : escapeLetter? c = some letter) (hd : escapeLetter? d = some letter) : c = d := by
  have hsame := hc.trans hd.symm
  unfold escapeLetter? at hc hsame
  split at hsame <;> split at hsame <;> simp_all

theorem escapeLetter?_ne_u (c : Char) : escapeLetter? c ≠ some 'u' := by
  unfold escapeLetter?
  split <;> decide

/-- The ways in which a character is written. -/
theorem escapeChar_cases (c : Char) :
    (∃ letter, escapeLetter? c = some letter ∧ escapeChar c = ['\\', letter]) ∨
    (escapeLetter? c = none ∧ escapeChar c = [c]) ∨
    (escapeLetter? c = none ∧
      escapeChar c = '\\' :: 'u' :: '\x7b' :: (hexDigits c.toNat ++ ['\x7d'])) := by
  unfold escapeChar
  cases hletter : escapeLetter? c with
  | some letter => exact .inl ⟨letter, rfl, rfl⟩
  | none =>
      by_cases hvisible : isVisible c = true
      · exact .inr (.inl ⟨rfl, by simp [hvisible]⟩)
      · exact .inr (.inr ⟨rfl, by simp [hvisible]⟩)

theorem hexDigits_append_inj {m n : Nat} {rest rest' : List Char} :
    hexDigits m ++ '\x7d' :: rest = hexDigits n ++ '\x7d' :: rest' ↔ m = n ∧ rest = rest' := by
  -- The brace is no digit, so it ends the digits on both sides.
  have hdigits : ∀ n, ∀ c ∈ hexDigits n, (c != '\x7d') = true := by
    intro n c hc
    obtain ⟨digit, hdigit, rfl⟩ :=
      exists_digit_of_mem_toDigits (by decide) (by decide) n c hc
    interval_cases digit <;> decide
  constructor
  · intro htext
    have htake := congrArg (List.takeWhile (· != '\x7d')) htext
    have hdrop := congrArg (List.dropWhile (· != '\x7d')) htext
    rw [List.takeWhile_append_of_pos (hdigits m), List.takeWhile_append_of_pos (hdigits n)] at htake
    rw [List.dropWhile_append_of_pos (hdigits m), List.dropWhile_append_of_pos (hdigits n)] at hdrop
    simp at htake hdrop
    exact ⟨(toDigits_inj (by decide) (by decide)).mp htake, hdrop⟩
  · rintro ⟨rfl, rfl⟩
    rfl

theorem ne_backslash_of_escapeLetter? {c : Char} (hnone : escapeLetter? c = none) : c ≠ '\\' := by
  rintro rfl
  cases hnone

theorem escapeChar_append_inj {c d : Char} {rest rest' : List Char} :
    escapeChar c ++ rest = escapeChar d ++ rest' ↔ c = d ∧ rest = rest' := by
  constructor
  · intro htext
    rcases escapeChar_cases c with ⟨letter, hc, hform⟩ | ⟨hc, hform⟩ | ⟨hc, hform⟩ <;>
      rcases escapeChar_cases d with ⟨letter', hd, hform'⟩ | ⟨hd, hform'⟩ | ⟨hd, hform'⟩ <;>
      rw [hform, hform'] at htext <;>
      simp only [List.cons_append, List.append_assoc, List.nil_append, List.cons.injEq,
        true_and] at htext
    · obtain ⟨rfl, hrest⟩ := htext
      exact ⟨eq_of_escapeLetter? hc hd, hrest⟩
    · exact absurd htext.1.symm (ne_backslash_of_escapeLetter? hd)
    · obtain ⟨rfl, -⟩ := htext
      exact absurd hc (escapeLetter?_ne_u c)
    · exact absurd htext.1 (ne_backslash_of_escapeLetter? hc)
    · exact htext
    · exact absurd htext.1 (ne_backslash_of_escapeLetter? hc)
    · obtain ⟨rfl, -⟩ := htext
      exact absurd hd (escapeLetter?_ne_u d)
    · exact absurd htext.1.symm (ne_backslash_of_escapeLetter? hd)
    · obtain ⟨hcode, hrest⟩ := hexDigits_append_inj.mp htext
      exact ⟨Char.toNat_inj.mp hcode, hrest⟩
  · rintro ⟨rfl, rfl⟩
    rfl

theorem escapeChar_append_ne_quote (c : Char) (rest rest' : List Char) :
    escapeChar c ++ rest ≠ '"' :: rest' := by
  have hquote : escapeLetter? c = none → c ≠ '"' := by
    rintro hnone rfl
    cases hnone
  rcases escapeChar_cases c with ⟨letter, hc, hform⟩ | ⟨hc, hform⟩ | ⟨hc, hform⟩ <;>
    simp [hform]
  exact fun heq => absurd heq (hquote hc)

/-- The closing quote is found, and before it stands the text. -/
theorem flatMap_escapeChar_append_inj {text text' rest rest' : List Char} :
    text.flatMap escapeChar ++ '"' :: rest = text'.flatMap escapeChar ++ '"' :: rest' ↔
      text = text' ∧ rest = rest' := by
  induction text generalizing text' with
  | nil =>
      cases text' with
      | nil => simp
      | cons d text' =>
          have hne := escapeChar_append_ne_quote d (text'.flatMap escapeChar ++ '"' :: rest') rest
          simpa using hne.symm
  | cons c text ih =>
      cases text' with
      | nil =>
          have hne := escapeChar_append_ne_quote c (text.flatMap escapeChar ++ '"' :: rest) rest'
          simpa using hne
      | cons d text' =>
          rw [List.flatMap_cons, List.flatMap_cons, List.append_assoc, List.append_assoc,
            escapeChar_append_inj, ih, List.cons.injEq, and_assoc]

theorem quote_append_inj {text text' rest rest' : String} :
    quote text ++ rest = quote text' ++ rest' ↔ text = text' ∧ rest = rest' := by
  have htext : text = text' ↔ text.toList = text'.toList := String.toList_inj.symm
  have hrest : rest = rest' ↔ rest.toList = rest'.toList := String.toList_inj.symm
  rw [htext, hrest, ← String.toList_inj]
  simp [quote, quoteChars, flatMap_escapeChar_append_inj]

end Text
end Keyring
