import Keyring.Config.Flag
import Mathlib.Data.List.TakeWhile
import Mathlib.Tactic

/-!
# The grammar of flags

A flag is read by trimming a text and putting it into lower case, both by the
rules of Unicode.  Two letters outside ASCII have lower-case forms inside, the
capital I with a dot and the sign for Kelvin, but no word of a flag has an `i` or
a `k`.  So the full mapping sees nothing that the one of ASCII does not see, and
flags are what their grammar says: a word in letters of either case with white
space around.
-/

namespace Keyring
namespace Text

theorem toNat_ofNat {code : Nat} (hvalid : code.isValidChar) : (Char.ofNat code).toNat = code := by
  rw [Char.ofNat, dif_pos hvalid]
  rfl

/-! ## Trimming -/

section Trimming

variable {before after : List Char}

theorem trimEnd_append_blanks (text : List Char) (hafter : ∀ c ∈ after, isBlank c = true) :
    trimEnd (text ++ after) = trimEnd text := by
  have hreverse : ∀ c ∈ after.reverse, isBlank c = true := by simpa using hafter
  rw [trimEnd, List.reverse_append, List.dropWhile_append_of_pos hreverse, trimEnd]

/-- Padding with blanks leaves what trimming gives. -/
theorem trim_padded (hbefore : ∀ c ∈ before, isBlank c = true) (text : List Char)
    (hafter : ∀ c ∈ after, isBlank c = true) : trim (before ++ text ++ after) = trim text := by
  rw [trim, List.append_assoc, List.dropWhile_append_of_pos hbefore, List.dropWhile_append]
  split
  · -- Nothing but blanks: what stands after them is dropped from the front already.
    rename_i hnone
    have hdropped : after.dropWhile isBlank = [] := List.dropWhile_eq_nil_iff.mpr hafter
    rw [hdropped, trim, List.isEmpty_iff.mp hnone]
  · rw [trimEnd_append_blanks _ hafter, trim]

theorem exists_padding (text : List Char) :
    ∃ before after, text = before ++ trim text ++ after ∧
      (∀ c ∈ before, isBlank c = true) ∧ ∀ c ∈ after, isBlank c = true := by
  let rest := text.dropWhile isBlank
  have hrest : trimEnd rest ++ (rest.reverse.takeWhile isBlank).reverse = rest := by
    rw [trimEnd, ← List.reverse_append, List.takeWhile_append_dropWhile, List.reverse_reverse]
  refine ⟨text.takeWhile isBlank, (rest.reverse.takeWhile isBlank).reverse, ?_, ?_, ?_⟩
  · rw [trim, List.append_assoc, hrest, List.takeWhile_append_dropWhile]
  · intro c hc
    exact List.mem_takeWhile_imp hc
  · intro c hc
    exact List.mem_takeWhile_imp (List.mem_reverse.mp hc)

theorem trim_of_no_blank {text : List Char} (hnone : ∀ c ∈ text, isBlank c = false) :
    trim text = text := by
  have hdrop : ∀ {part : List Char}, (∀ c ∈ part, isBlank c = false) →
      part.dropWhile isBlank = part := by
    intro part hpart
    cases part with
    | nil => rfl
    | cons c part => simp [hpart c (by simp)]
  rw [trim, hdrop hnone, trimEnd, hdrop (by simpa using hnone), List.reverse_reverse]

theorem isBlank_eq_false_of_visible {c : Char} (hvisible : 0x21 ≤ c.toNat ∧ c.toNat ≤ 0x7e) :
    isBlank c = false := by
  have houtside : ∀ interval ∈ whiteSpace.intervals,
      interval.2 < 0x21 ∨ 0x7e < interval.1 := by decide
  simp only [isBlank, Charset.contains, List.any_eq_false, Bool.and_eq_true, decide_eq_true_eq]
  intro interval hmem
  have := houtside interval hmem
  omega

theorem isUpper_iff_val {c : Char} : c.isUpper = true ↔ c.val ≥ 'A'.val ∧ c.val ≤ 'Z'.val :=
  decide_eq_true_iff

theorem isUpper_iff {c : Char} : c.isUpper = true ↔ 65 ≤ c.toNat ∧ c.toNat ≤ 90 := by
  rw [isUpper_iff_val]
  simp [UInt32.le_iff_toNat_le, ← Char.toNat_val]

theorem toLower_of_not_isUpper {c : Char} (hother : ¬c.isUpper = true) : c.toLower = c :=
  dif_neg (mt isUpper_iff_val.mpr hother)

theorem toNat_toLower_of_isUpper {c : Char} (hupper : c.isUpper = true) :
    c.toLower.toNat = c.toNat + 32 := by
  have hrange := isUpper_iff.mp hupper
  have hlower : c.toLower = ⟨c.val + ('a'.val - 'A'.val), _⟩ := dif_pos (isUpper_iff_val.mp hupper)
  have hval : c.toLower.toNat = (c.val + ('a'.val - 'A'.val)).toNat := by rw [hlower]; rfl
  have hstep : ('a'.val - 'A'.val).toNat = 32 := by decide
  rw [hval, UInt32.toNat_add, hstep]
  exact Nat.mod_eq_of_lt (show c.toNat + 32 < 2 ^ 32 by omega)

theorem toLower_of_isUpper {c : Char} (hupper : c.isUpper = true) :
    c.toLower = Char.ofNat (c.toNat + 32) := by
  rw [← toNat_toLower_of_isUpper hupper, Char.ofNat_toNat]

theorem isBlank_toLower (c : Char) : isBlank c.toLower = isBlank c := by
  by_cases hupper : c.isUpper = true
  · have hrange := isUpper_iff.mp hupper
    have hlower := toNat_toLower_of_isUpper hupper
    have hhere : isBlank c = false := isBlank_eq_false_of_visible (by omega)
    have hthere : isBlank c.toLower = false := isBlank_eq_false_of_visible (by omega)
    rw [hhere, hthere]
  · rw [toLower_of_not_isUpper hupper]

theorem trim_map_toLower (text : List Char) :
    trim (text.map Char.toLower) = (trim text).map Char.toLower := by
  have hblank : isBlank ∘ Char.toLower = isBlank := funext isBlank_toLower
  simp only [trim, trimEnd, List.dropWhile_map, ← List.map_reverse, hblank]

end Trimming

/-! ## Lower case -/

theorem caseRuns_from_ascii :
    ∀ run ∈ caseRuns, run.first < 0x80 →
      run.first = 0x41 ∧ run.last = 0x5a ∧ run.shift = 32 := by
  decide +kernel

/-- Apart from the sign for Kelvin, no letter outside ASCII has its lower-case form inside. -/
theorem caseRuns_from_beyond :
    ∀ run ∈ caseRuns, 0x80 ≤ run.last →
      (run.first = 0x212a ∧ run.last = 0x212a ∧ run.shift = -8383) ∨
      (0x80 ≤ run.first + run.shift ∧ run.last + run.shift < 0xd800) ∨
      (0xe000 ≤ run.first + run.shift ∧ run.last + run.shift < 0x110000) := by
  decide +kernel

theorem mem_of_find?_run {run : CaseRun} {code : Nat}
    (h : caseRuns.find? (fun run => run.contains code) = some run) :
    run ∈ caseRuns ∧ run.first ≤ code ∧ code ≤ run.last := by
  have hcontains : run.contains code = true := by simpa using List.find?_some h
  simp only [CaseRun.contains, Bool.and_eq_true, decide_eq_true_eq] at hcontains
  exact ⟨List.mem_of_find?_eq_some h, hcontains.1⟩

/-- Inside ASCII the full mapping is that of ASCII. -/
theorem lowerChar_of_ascii {c : Char} (hascii : c.toNat < 0x80) : lowerChar c = [c.toLower] := by
  have hdotted : c.toNat ≠ 0x130 := by omega
  rw [lowerChar, if_neg hdotted]
  split
  next run hrun =>
    obtain ⟨hmem, hbounds⟩ := mem_of_find?_run hrun
    obtain ⟨hfirst, hlast, hshift⟩ := caseRuns_from_ascii run hmem (by omega)
    have hupper : c.isUpper = true := isUpper_iff.mpr (by omega)
    rw [toLower_of_isUpper hupper, hshift]
    rfl
  next hnone =>
    have hupper : ¬ c.isUpper = true := by
      intro hupper
      have hrange := isUpper_iff.mp hupper
      have hcapitals := List.find?_eq_none.mp hnone ⟨0x41, 0x5a, 1, 32⟩ (.head _)
      simp [CaseRun.contains, hrange, Nat.mod_one] at hcapitals
    rw [toLower_of_not_isUpper hupper]

/-- Where the lower-case form of a letter outside ASCII begins. -/
theorem head_lowerChar_of_beyond {c : Char} (hbeyond : 0x80 ≤ c.toNat) :
    ∃ first rest, lowerChar c = first :: rest ∧
      (0x80 ≤ first.toNat ∨ first = 'i' ∨ first = 'k') := by
  rw [lowerChar]
  split
  next => exact ⟨'i', [Char.ofNat 0x307], rfl, .inr (.inl rfl)⟩
  next =>
    split
    next run hrun =>
      obtain ⟨hmem, hbounds⟩ := mem_of_find?_run hrun
      refine ⟨_, [], rfl, ?_⟩
      rcases caseRuns_from_beyond run hmem (by omega) with
        ⟨hfirst, hlast, hshift⟩ | hlow | hhigh
      · have hcode : c.toNat = 0x212a := by omega
        rw [hcode, hshift]
        exact .inr (.inr rfl)
      · have hvalid : (c.toNat + run.shift).toNat.isValidChar := .inl (by omega)
        rw [toNat_ofNat hvalid]
        omega
      · have hvalid : (c.toNat + run.shift).toNat.isValidChar := .inr (by omega)
        rw [toNat_ofNat hvalid]
        omega
    next => exact ⟨c, [], rfl, .inl hbeyond⟩

/-- For a word without `i` and `k` it does not matter by which rules a text is put into
lower case. -/
theorem lower_eq_iff {word : List Char}
    (hword : ∀ letter ∈ word, letter.toNat < 0x80 ∧ letter ≠ 'i' ∧ letter ≠ 'k')
    (text : List Char) : lower text = word ↔ text.map Char.toLower = word := by
  induction text generalizing word with
  | nil => rfl
  | cons c text ih =>
      have hlower : lower (c :: text) = lowerChar c ++ lower text := rfl
      rw [hlower]
      by_cases hascii : c.toNat < 0x80
      · rw [lowerChar_of_ascii hascii, List.singleton_append, List.map_cons]
        cases word with
        | nil => simp
        | cons letter word =>
            have hrest := ih fun other hother => hword other (List.mem_cons_of_mem letter hother)
            rw [List.cons.injEq, List.cons.injEq, hrest]
      · -- Neither side can begin with a letter of a word.
        obtain ⟨first, rest, hform, hfirst⟩ := head_lowerChar_of_beyond (Nat.le_of_not_lt hascii)
        have hupper : ¬ c.isUpper = true := fun hupper => by
          have hrange := isUpper_iff.mp hupper
          omega
        rw [hform, List.cons_append, List.map_cons, toLower_of_not_isUpper hupper]
        constructor
        · rintro rfl
          have hletter := hword first (by simp)
          grind
        · rintro rfl
          have hletter := hword c (by simp)
          omega

end Text

open Text

/-! ## Words of flags -/

/-- A word of a flag: its digit, or its name in letters of either case. -/
def IsFlagWord : Bool → List Char → Prop
  | true, core => core = "1".toList ∨ core.map Char.toLower = "true".toList
  | false, core => core = "0".toList ∨ core.map Char.toLower = "false".toList

/-- A word of a flag with blanks around it. -/
def SpellsFlag (value : Bool) (text : List Char) : Prop :=
  ∃ before core after, text = before ++ core ++ after ∧
    (∀ c ∈ before, isBlank c = true) ∧ (∀ c ∈ after, isBlank c = true) ∧ IsFlagWord value core

/-- The words of a flag in lower case. -/
def flagWords : Bool → List (List Char)
  | true => ["1".toList, "true".toList]
  | false => ["0".toList, "false".toList]

theorem map_toLower_eq_digit_iff (digit : Char) (hdigit : digit.isDigit = true)
    (core : List Char) : core.map Char.toLower = [digit] ↔ core = [digit] := by
  have hrange : 48 ≤ digit.toNat ∧ digit.toNat ≤ 57 := by
    simpa [Char.isDigit, UInt32.le_iff_toNat_le, ← Char.toNat_val] using hdigit
  have hsame : ∀ c : Char, c.toLower = digit ↔ c = digit := by
    intro c
    by_cases hupper : c.isUpper = true
    · have hbounds := isUpper_iff.mp hupper
      have hlower := toNat_toLower_of_isUpper hupper
      constructor <;> (rintro rfl; omega)
    · rw [toLower_of_not_isUpper hupper]
  cases core with
  | nil => simp
  | cons c core => simp [hsame c]

theorem isFlagWord_iff (value : Bool) (core : List Char) :
    IsFlagWord value core ↔ core.map Char.toLower ∈ flagWords value := by
  have hone := map_toLower_eq_digit_iff '1' (by decide) core
  have hnought := map_toLower_eq_digit_iff '0' (by decide) core
  cases value with
  | true => simp [IsFlagWord, flagWords, hone]
  | false => simp [IsFlagWord, flagWords, hnought]

theorem letter_of_flagWords {value : Bool} {word : List Char} (hword : word ∈ flagWords value) :
    ∀ letter ∈ word, (0x21 ≤ letter.toNat ∧ letter.toNat ≤ 0x7e) ∧ letter ≠ 'i' ∧ letter ≠ 'k' := by
  cases value <;> simp only [flagWords, List.mem_cons, List.not_mem_nil, or_false] at hword <;>
    rcases hword with rfl | rfl <;> simp

theorem lower_mem_flagWords_iff (value : Bool) (core : List Char) :
    lower core ∈ flagWords value ↔ IsFlagWord value core := by
  have hsame : ∀ word ∈ flagWords value, lower core = word ↔ core.map Char.toLower = word := by
    intro word hword
    apply lower_eq_iff
    intro letter hletter
    have := letter_of_flagWords hword letter hletter
    exact ⟨by omega, this.2⟩
  rw [isFlagWord_iff]
  constructor
  · intro hmem
    rwa [(hsame _ hmem).mp rfl]
  · intro hmem
    rwa [(hsame _ hmem).mpr rfl]

theorem parseFlag_eq_some_iff (text : List Char) (value : Bool) :
    parseFlag text = some value ↔ IsFlagWord value (trim text) := by
  have htrue : ∀ core, core = "1".toList ∨ core = "true".toList ↔ core ∈ flagWords true := by
    simp [flagWords]
  have hfalse : ∀ core, core = "0".toList ∨ core = "false".toList ↔ core ∈ flagWords false := by
    simp [flagWords]
  have hapart : ∀ word ∈ flagWords true, word ∉ flagWords false := by decide
  rw [← lower_mem_flagWords_iff, parseFlag]
  simp only [htrue, hfalse]
  split
  next hyes =>
    have hno := hapart _ hyes
    cases value <;> simp [hyes, hno]
  next hyes =>
    split
    next hno => cases value <;> simp [hyes, hno]
    next hno => cases value <;> simp [hyes, hno]

variable {value : Bool} {core : List Char}

theorem IsFlagWord.visible (hword : IsFlagWord value core) :
    ∀ c ∈ core, 0x21 ≤ c.toNat ∧ c.toNat ≤ 0x7e := by
  intro c hc
  have hletter := letter_of_flagWords ((isFlagWord_iff value core).mp hword) c.toLower
    (List.mem_map_of_mem hc)
  by_cases hupper : c.isUpper = true
  · have hbounds := isUpper_iff.mp hupper
    omega
  · rw [toLower_of_not_isUpper hupper] at hletter
    exact hletter.1

theorem spellsFlag_iff (value : Bool) (text : List Char) :
    SpellsFlag value text ↔ IsFlagWord value (trim text) := by
  constructor
  · rintro ⟨before, core, after, rfl, hbefore, hafter, hword⟩
    have hnone : ∀ c ∈ core, isBlank c = false :=
      fun c hc => isBlank_eq_false_of_visible (hword.visible c hc)
    rwa [trim_padded hbefore core hafter, trim_of_no_blank hnone]
  · intro hword
    obtain ⟨before, after, htext, hbefore, hafter⟩ := exists_padding text
    exact ⟨before, trim text, after, htext, hbefore, hafter, hword⟩

/-- Flags are padded words.  A character outside ASCII is never part of one, and neither the
padding nor the case of a letter matters. -/
theorem flags_are_padded_words (text : List Char) :
    (∀ value, parseFlag text = some value ↔ SpellsFlag value text) ∧
    (parseFlag text = none ↔ ¬ SpellsFlag true text ∧ ¬ SpellsFlag false text) ∧
    ¬ (SpellsFlag true text ∧ SpellsFlag false text) ∧
    ((∃ c ∈ trim text, 0x80 ≤ c.toNat) → parseFlag text = none) ∧
    (∀ before after, (∀ c ∈ before, isBlank c = true) → (∀ c ∈ after, isBlank c = true) →
      parseFlag (before ++ text ++ after) = parseFlag text) ∧
    (∀ other : List Char, other.map Char.toLower = text.map Char.toLower →
      parseFlag other = parseFlag text) := by
  have hspells : ∀ value, parseFlag text = some value ↔ SpellsFlag value text := by
    intro value
    rw [parseFlag_eq_some_iff, spellsFlag_iff]
  refine ⟨hspells, ?_, ?_, ?_, ?_, ?_⟩
  · rw [← hspells, ← hspells]
    cases hflag : parseFlag text with
    | none => simp
    | some value => cases value <;> simp
  · rintro ⟨htrue, hfalse⟩
    rw [← hspells] at htrue hfalse
    simp [htrue] at hfalse
  · rintro ⟨c, hc, hbeyond⟩
    rw [Option.eq_none_iff_forall_ne_some]
    intro value hflag
    have hvisible := ((parseFlag_eq_some_iff text value).mp hflag).visible c hc
    omega
  · intro before after hbefore hafter
    rw [parseFlag, trim_padded hbefore text hafter, parseFlag]
  · intro other hother
    apply Option.ext
    intro value
    rw [parseFlag_eq_some_iff, parseFlag_eq_some_iff, isFlagWord_iff, isFlagWord_iff,
      ← trim_map_toLower, hother, trim_map_toLower]

/-- A flag in mixed case between wide blanks, and one that is none for its long `s`. -/
theorem flag_between_wide_blanks :
    parseFlag ("\u3000\u2003".toList ++ "TrUe".toList ++ "\n".toList) = some true ∧
      parseFlag "fal\u017fe".toList = none := by
  obtain ⟨hspells, -, -, -, -, hcase⟩ := flags_are_padded_words "true".toList
  obtain ⟨-, -, -, -, hpadded, -⟩ := flags_are_padded_words "TrUe".toList
  obtain ⟨-, -, -, hbeyond, -, -⟩ := flags_are_padded_words "fal\u017fe".toList
  have hplain : parseFlag "true".toList = some true :=
    (hspells true).mpr ⟨[], "true".toList, [], rfl, by simp, by simp, .inr rfl⟩
  have hmixed : parseFlag "TrUe".toList = some true := (hcase _ rfl).trans hplain
  have hwide : ∀ c ∈ "\u3000\u2003".toList, isBlank c = true :=
    List.all_eq_true.mp (by decide +kernel)
  have hbreak : ∀ c ∈ "\n".toList, isBlank c = true := List.all_eq_true.mp (by decide +kernel)
  have hlong : '\u017f' ∈ trim "fal\u017fe".toList := by decide +kernel
  exact ⟨(hpadded _ _ hwide hbreak).trans hmixed, hbeyond ⟨'\u017f', hlong, by decide⟩⟩

end Keyring
