import Keyring.Proofs.DigitTexts
import Keyring.Toml.Document
import Mathlib.Tactic

/-!
# Documents of plain lines

A line of such a document assigns a value to a bare key.  Whole numbers in
decimal digits, words and strings without escapes stand for the items that they
spell, up to the end of their line and at any depth.  A document of these lines
therefore parses, and its table has the keys in their order with their items.
-/

namespace Keyring
namespace Toml

theorem scanRun_digits {digits : List Char} (hdigits : ∀ c ∈ digits, c.isDigit)
    (rest : List Char) :
    scanRun Char.isDigit (digits ++ '\n' :: rest) = (digits, '\n' :: rest) := by
  induction digits with
  | nil => simp [scanRun]
  | cons digit digits ih =>
      have hdigit : digit.isDigit := hdigits digit (by simp)
      have hscore : digit ≠ '_' := by rintro rfl; simp at hdigit
      simp [scanRun, hdigit, hscore, ih fun c hc => hdigits c (by simp [hc])]

theorem scanWhole_toDigits (n : Nat) (rest : List Char) :
    scanWhole (Nat.toDigits 10 n ++ '\n' :: rest) = some (Nat.toDigits 10 n, '\n' :: rest) := by
  have hdigits := Text.isDigit_of_mem_toDigits n
  rcases Nat.eq_zero_or_pos n with rfl | hpos
  · rfl
  · obtain ⟨first, more, heq, hfirst⟩ := Text.toDigits_eq_cons hpos
    rw [heq] at hdigits ⊢
    have hmore : ∀ c ∈ more, c.isDigit := fun c hc => hdigits c (by simp [hc])
    simp [scanWhole, hfirst, scanDigits, hdigits first, scanRun_digits hmore]

theorem scanNumber_toDigits (n : Nat) (rest : List Char) :
    scanNumber (Nat.toDigits 10 n ++ '\n' :: rest) =
      (integer? false n).map fun value => (.integer value, '\n' :: rest) := by
  have hwhole := scanWhole_toDigits n rest
  have hvalue : Text.digitsValue 10 (Nat.toDigits 10 n) = n := Text.digitsValue_toDigits n
  -- A nought could open a number in another base, but no such number ends its line there.
  rcases Nat.eq_zero_or_pos n with rfl | hpos
  · rfl
  · obtain ⟨first, more, heq, hfirst⟩ := Text.toDigits_eq_cons hpos
    have hdigit : first.isDigit :=
      Text.isDigit_of_mem_toDigits n first (by simp [heq])
    have hletter : first ≠ '-' ∧ first ≠ '+' ∧ first ≠ 'i' ∧ first ≠ 'n' := by
      refine ⟨?_, ?_, ?_, ?_⟩ <;> (rintro rfl; simp at hdigit)
    rw [heq, List.cons_append] at hwhole
    rw [heq] at hvalue
    simp [scanNumber, heq, hfirst, Text.splitSign, hletter, scanUnsigned, hwhole, scanDecimalEnd,
      hvalue]

theorem beginsDate_digits {digits : List Char} (hdigits : ∀ c ∈ digits, c.isDigit)
    (rest : List Char) : beginsDate (digits ++ '\n' :: rest) = false := by
  match digits with
  | [] | [_] | [_, _] | [_, _, _] | [_, _, _, _] => simp [beginsDate]
  | _ :: _ :: _ :: _ :: fifth :: _ =>
    have hdash : fifth ≠ '-' := by
      rintro rfl
      simpa using hdigits '-' (by simp)
    simp [beginsDate, hdash]

theorem beginsTime_eq_false {tens units : Char} {rest : List Char}
    (hrest : rest.head? ≠ some ':') : beginsTime (tens :: units :: rest) = false := by
  simp only [beginsTime, scanTwo]
  split <;> simp [hrest]

theorem beginsTime_digits {digits : List Char} (hdigits : ∀ c ∈ digits, c.isDigit)
    (rest : List Char) : beginsTime (digits ++ '\n' :: rest) = false := by
  match digits with
  | [] => cases rest <;> simp [beginsTime, scanTwo]
  | [_] => simp [beginsTime, scanTwo]
  | [tens, units] => exact beginsTime_eq_false (by simp)
  | tens :: units :: third :: more =>
    have hcolon : third ≠ ':' := by
      rintro rfl
      simpa using hdigits ':' (by simp)
    exact beginsTime_eq_false (by simp [hcolon])

theorem scanValue_eq_scanQuantity {first : Char} (hdigit : first.isDigit) (more : List Char)
    (depth : Nat) : scanValue depth (first :: more) = scanQuantity (first :: more) := by
  have hletter : first ≠ '[' ∧ first ≠ '\x7b' ∧ first ≠ 't' ∧ first ≠ 'f' ∧ first ≠ '"' ∧
      first ≠ '\'' := by
    refine ⟨?_, ?_, ?_, ?_, ?_, ?_⟩ <;> (rintro rfl; simp at hdigit)
  cases depth <;> simp [scanValue, scanValueWith, hletter, hdigit]

theorem scanValue_toDigits (n : Nat) (rest : List Char) (depth : Nat) :
    scanValue depth (Nat.toDigits 10 n ++ '\n' :: rest) =
      (integer? false n).map fun value => (.integer value, '\n' :: rest) := by
  have hdigits := Text.isDigit_of_mem_toDigits n
  obtain ⟨first, more, heq⟩ : ∃ first more, Nat.toDigits 10 n = first :: more :=
    List.exists_cons_of_ne_nil Nat.toDigits_ne_nil
  have hvalue : scanValue depth (Nat.toDigits 10 n ++ '\n' :: rest) =
      scanQuantity (Nat.toDigits 10 n ++ '\n' :: rest) := by
    rw [heq]
    exact scanValue_eq_scanQuantity (hdigits first (by simp [heq])) _ depth
  rw [hvalue, scanQuantity, beginsDate_digits hdigits, beginsTime_digits hdigits]
  exact scanNumber_toDigits n rest

/-- Text that stands between quotes as it is. -/
def Verbatim (content : List Char) : Prop :=
  ∀ c ∈ content, isVisible c ∧ c ≠ '"' ∧ c ≠ '\\'

theorem scanBasic_verbatim {content : List Char} (hverbatim : Verbatim content) (rest : List Char) :
    scanBasic (content ++ '"' :: rest) = some (content, rest) := by
  induction content with
  | nil => simp [scanBasic]
  | cons c content ih =>
      obtain ⟨hvisible, hquote, hescape⟩ := hverbatim c (by simp)
      have hrest := ih fun d hd => hverbatim d (by simp [hd])
      simp [scanBasic, hvisible, hescape, hrest, prepend]

theorem scanString_verbatim {content : List Char} (hverbatim : Verbatim content)
    (rest : List Char) :
    scanString ('"' :: content ++ '"' :: '\n' :: rest) = some (content, '\n' :: rest) := by
  cases content with
  | nil => simp [scanString, scanBasic]
  | cons c content =>
      have hquote : c ≠ '"' := (hverbatim c (by simp)).2.1
      have hbasic := scanBasic_verbatim hverbatim ('\n' :: rest)
      rw [List.cons_append] at hbasic
      simp [scanString, hquote, hbasic]

theorem scanValue_verbatim {content : List Char} (hverbatim : Verbatim content)
    (rest : List Char) (depth : Nat) :
    scanValue depth ('"' :: content ++ '"' :: '\n' :: rest) =
      some (.text (String.ofList content), '\n' :: rest) := by
  have hstring := scanString_verbatim hverbatim rest
  cases depth <;> simp_all [scanValue, scanValueWith]

theorem scanValue_boolean (value : Bool) (rest : List Char) (depth : Nat) :
    scanValue depth ((if value then "true" else "false").toList ++ rest) =
      some (.boolean value, rest) := by
  cases depth <;> cases value <;> rfl

theorem not_isGap_of_isBareKeyChar {c : Char} (hbare : isBareKeyChar c) : isGap c = false := by
  have hspace : c ≠ ' ' := by rintro rfl; simp [isBareKeyChar] at hbare
  have htab : c ≠ '\t' := by rintro rfl; simp [isBareKeyChar] at hbare
  simp [isGap, hspace, htab]

theorem scanSimpleKey_bare {name : List Char} (hnamed : name ≠ [])
    (hbare : ∀ c ∈ name, isBareKeyChar c) (rest : List Char) :
    scanSimpleKey (name ++ ' ' :: rest) =
      some (⟨String.ofList name, ⟨name ++ ' ' :: rest, ' ' :: rest⟩⟩, ' ' :: rest) := by
  obtain ⟨first, more, rfl⟩ := List.exists_cons_of_ne_nil hnamed
  have hfirst : isBareKeyChar first := hbare first (by simp)
  have hquotes : first ≠ '"' ∧ first ≠ '\'' := by
    refine ⟨?_, ?_⟩ <;> (rintro rfl; simp [isBareKeyChar] at hfirst)
  have hspace : isBareKeyChar ' ' = false := by decide
  have htake : (first :: more ++ ' ' :: rest).takeWhile isBareKeyChar = first :: more := by
    rw [List.takeWhile_append_of_pos hbare]
    simp [hspace]
  have hdrop : (first :: more ++ ' ' :: rest).dropWhile isBareKeyChar = ' ' :: rest := by
    rw [List.dropWhile_append_of_pos hbare]
    simp [hspace]
  rw [List.cons_append] at htake hdrop
  simp [scanSimpleKey, hquotes, htake, hdrop]

theorem skipGap_bare {name : List Char} (hnamed : name ≠ [])
    (hbare : ∀ c ∈ name, isBareKeyChar c) (rest : List Char) :
    skipGap (name ++ rest) = name ++ rest := by
  obtain ⟨first, more, rfl⟩ := List.exists_cons_of_ne_nil hnamed
  simp [skipGap, not_isGap_of_isBareKeyChar (hbare first (by simp))]

theorem scanPath_bare {name : List Char} (hnamed : name ≠ [])
    (hbare : ∀ c ∈ name, isBareKeyChar c) (rest : List Char) :
    scanPath (name ++ ' ' :: '=' :: rest) =
      some (⟨[], ⟨String.ofList name, ⟨name ++ ' ' :: '=' :: rest, ' ' :: '=' :: rest⟩⟩⟩,
        '=' :: rest) := by
  have hgap : skipGap (' ' :: '=' :: rest) = '=' :: rest := by simp [skipGap, isGap]
  simp [scanPath, nestingLimit, scanKeyParts, skipGap_bare hnamed hbare,
    scanSimpleKey_bare hnamed hbare, hgap]

/-- A key, a value as written, and the item that the value stands for. -/
structure Assignment where
  name : List Char
  value : List Char
  item : Item

namespace Assignment

def text (a : Assignment) : List Char :=
  a.name ++ ' ' :: '=' :: ' ' :: (a.value ++ ['\n'])

/-- The line that is read off an assignment before the rest of a document. -/
def line (a : Assignment) (rest : List Char) : Line where
  path := ⟨[], ⟨String.ofList a.name,
    ⟨a.text ++ rest, ' ' :: '=' :: ' ' :: (a.value ++ '\n' :: rest)⟩⟩⟩
  item := a.item
  span := ⟨a.value ++ '\n' :: rest, '\n' :: rest⟩

structure Plain (a : Assignment) : Prop where
  named : a.name ≠ []
  bare : ∀ c ∈ a.name, isBareKeyChar c
  tight : ∀ c ∈ a.value.head?, isGap c = false
  reads : ∀ rest, scanValue (nestingLimit - 1) (a.value ++ '\n' :: rest) =
    some (a.item, '\n' :: rest)

variable {a : Assignment}

theorem Plain.scanLine (hplain : a.Plain) (rest : List Char) :
    Toml.scanLine (scanValue (nestingLimit - 1)) (a.text ++ rest) =
      some (a.line rest, '\n' :: rest) := by
  have hgap : skipGap (' ' :: (a.value ++ '\n' :: rest)) = a.value ++ '\n' :: rest := by
    have htight := hplain.tight
    cases hvalue : a.value with
    | nil => simp [skipGap, isGap]
    | cons c value =>
        have hc : isGap c = false := htight c (by simp [hvalue])
        have hspace : isGap ' ' = true := by decide
        simp [skipGap, hc, hspace]
  have htext : a.text ++ rest = a.name ++ ' ' :: '=' :: ' ' :: (a.value ++ '\n' :: rest) := by
    simp [text]
  rw [line, htext, Toml.scanLine, scanPath_bare hplain.named hplain.bare]
  simp [hgap, hplain.reads]

theorem Plain.scanStatement (hplain : a.Plain) (rest : List Char) :
    Toml.scanStatement (a.text ++ rest) = some (.line (a.line rest), rest) := by
  have hline := hplain.scanLine rest
  obtain ⟨first, more, hname⟩ := List.exists_cons_of_ne_nil hplain.named
  have hfirst : isBareKeyChar first := hplain.bare first (by simp [hname])
  have hmarks : first ≠ '[' ∧ first ≠ '#' ∧ first ≠ '\n' ∧ first ≠ '\r' := by
    refine ⟨?_, ?_, ?_, ?_⟩ <;> (rintro rfl; simp [isBareKeyChar] at hfirst)
  have hend : finishLine? ('\n' :: rest) = some rest := by
    simp [finishLine?, skipGap, isGap, skipComment, lineBreak?]
  have htext : a.text ++ rest =
      first :: (more ++ ' ' :: '=' :: ' ' :: (a.value ++ '\n' :: rest)) := by
    simp [text, hname]
  rw [htext] at hline ⊢
  simp [Toml.scanStatement, hmarks, hline, hend]

end Assignment

def document (assignments : List Assignment) : List Char :=
  assignments.flatMap Assignment.text

/-- The lines of a document, each with the stretches of text that it takes up. -/
def documentLines : List Assignment → List Line
  | [] => []
  | a :: assignments => a.line (document assignments) :: documentLines assignments

theorem scanStatements_document {assignments : List Assignment}
    (hplain : ∀ a ∈ assignments, a.Plain) {bound : Nat} (hbound : assignments.length ≤ bound) :
    scanStatements bound (document assignments) =
      some ((documentLines assignments).map .line) := by
  -- The bound is spent line by line, and every line has text of its own.
  induction assignments generalizing bound with
  | nil => simp [document, documentLines, scanStatements, skipGap]
  | cons a assignments ih =>
      have ha : a.Plain := hplain a (by simp)
      obtain ⟨bound, rfl⟩ : ∃ more, bound = more + 1 := ⟨bound - 1, by simp at hbound; omega⟩
      have hrest := @ih (fun b hb => hplain b (by simp [hb])) bound (by simpa using hbound)
      have hgap : skipGap (a.text ++ document assignments) = a.text ++ document assignments := by
        simpa [Assignment.text] using skipGap_bare ha.named ha.bare _
      have hstatement := ha.scanStatement (document assignments)
      have htext : document (a :: assignments) = a.text ++ document assignments := by
        simp [document]
      obtain ⟨first, more, hfirst⟩ : ∃ first more, a.text ++ document assignments = first :: more :=
        List.exists_cons_of_ne_nil (by simp [Assignment.text])
      rw [htext, scanStatements, hgap]
      rw [hfirst] at hstatement ⊢
      simp [hstatement, hrest, documentLines]

theorem sections_lines (lines : List Line) : sections (lines.map .line) = (lines, []) := by
  induction lines with
  | nil => rfl
  | cons line lines ih => simp [sections, ih]

def Line.entry (line : Line) : Entry Item :=
  { key := line.path.last, span := some line.span, item := line.item }

theorem addLine_new {table : Table} {line : Line} (hway : line.path.way = [])
    (hnew : ∀ entry ∈ table, entry.key.text ≠ line.path.last.text) :
    addLine table line = some (table ++ [line.entry]) := by
  have hnone : Table.find? table line.path.last.text = none := by
    simpa [Table.find?] using hnew
  simp [addLine, hway, alterAt, hnone, Line.entry]

theorem foldlM_addLine {lines : List Line} {table : Table}
    (hway : ∀ line ∈ lines, line.path.way = [])
    (hnew : ((table ++ lines.map Line.entry).map (·.key.text)).Nodup) :
    lines.foldlM addLine table = some (table ++ lines.map Line.entry) := by
  induction lines generalizing table with
  | nil => simp
  | cons line lines ih =>
      have hfirst : addLine table line = some (table ++ [line.entry]) := by
        apply addLine_new (hway line (by simp))
        intro entry hentry heq
        simp only [List.map_append, List.map_cons, List.nodup_append] at hnew
        exact hnew.2.2 _ (List.mem_map_of_mem hentry) _ (by simp [Line.entry]) heq
      rw [List.foldlM_cons, hfirst]
      have hrest := @ih (table ++ [line.entry]) (fun l hl => hway l (by simp [hl]))
        (by simpa using hnew)
      simpa using hrest

def documentTable (assignments : List Assignment) : Table :=
  (documentLines assignments).map Line.entry

theorem way_documentLines (assignments : List Assignment) :
    ∀ line ∈ documentLines assignments, line.path.way = [] := by
  induction assignments with
  | nil => simp [documentLines]
  | cons a assignments ih => simpa [documentLines, Assignment.line] using ih

theorem names_documentTable (assignments : List Assignment) :
    (documentTable assignments).map (·.key.text) =
      assignments.map fun a => String.ofList a.name := by
  induction assignments with
  | nil => rfl
  | cons a assignments ih =>
      simpa [documentTable, documentLines, Assignment.line, Line.entry] using ih

theorem length_le_document (assignments : List Assignment) :
    assignments.length ≤ (document assignments).length := by
  induction assignments with
  | nil => simp
  | cons a assignments ih =>
      simp only [document, List.flatMap_cons, List.length_cons, List.length_append] at ih ⊢
      have htext : 0 < a.text.length := by simp [Assignment.text]
      omega

theorem parse_document {assignments : List Assignment} (hplain : ∀ a ∈ assignments, a.Plain)
    (hnames : (assignments.map (·.name)).Nodup) :
    parse (document assignments) = some (documentTable assignments) := by
  have hmark : dropByteOrderMark (document assignments) = document assignments := by
    cases assignments with
    | nil => rfl
    | cons a assignments =>
        have ha : a.Plain := hplain a (by simp)
        obtain ⟨first, more, hname⟩ := List.exists_cons_of_ne_nil ha.named
        have hfirst : isBareKeyChar first := ha.bare first (by simp [hname])
        have hmark : first ≠ '\ufeff' := by rintro rfl; simp [isBareKeyChar] at hfirst
        simp [document, Assignment.text, hname, dropByteOrderMark, hmark]
  have hlines : (documentLines assignments).foldlM addLine [] =
      some (documentTable assignments) := by
    apply foldlM_addLine (way_documentLines assignments)
    change ((documentTable assignments).map (·.key.text)).Nodup
    rw [names_documentTable]
    have hinjective : Function.Injective String.ofList := fun _ _ h => String.ofList_injective h
    simpa [Function.comp_def] using hnames.map hinjective
  have hstatements := scanStatements_document hplain (length_le_document assignments)
  simp [parse, hmark, hstatements, sections_lines, hlines]

end Toml
end Keyring
