import Keyring.Proofs.QuotedText
import Keyring.Proofs.Secrecy

/-!
# What diagnostic texts tell

A text delimits if it can be cut off the front of whatever follows it and then
tells its value, up to what it leaves out on purpose.  Quoted text delimits, and
so does what is put together from texts that delimit.  The figures of credentials
and of stores are put together like this in both layouts, and all that they leave
out is the secrets: two of them look alike only if they agree in everything else.
-/

namespace Keyring

/-- The text of a value ends by itself and tells the value up to `same`. -/
def Delimits {α : Type} (text : α → String) (same : α → α → Prop) : Prop :=
  ∀ (a b : α) (rest rest' : String), text a ++ rest = text b ++ rest' ↔ same a b ∧ rest = rest'

/-- The texts of a list before a closing text. -/
def textsBefore {α : Type} (closing : String) (text : α → String) (list : List α) : String :=
  list.foldr (fun a rest => text a ++ rest) closing

/-- The text of a list whose first element has a text of its own, as the empty list has. -/
def textsAfter {α : Type} (ending : String) (text : α → String) (others : List α → String) :
    List α → String
  | [] => ending
  | a :: list => text a ++ others list

namespace Delimits

variable {α β : Type} {text text' : α → String} {same same' : α → α → Prop}

theorem eq_iff (h : Delimits text same) (a b : α) : text a = text b ↔ same a b := by
  have htext := h a b "" ""
  simpa using htext

theorem const (word : String) : Delimits (fun _ : α => word) fun _ _ => True := by
  intro a b rest rest'
  rw [String.append_right_inj, true_and]

theorem append (h : Delimits text same) (h' : Delimits text' same') :
    Delimits (fun a => text a ++ text' a) fun a b => same a b ∧ same' a b := by
  intro a b rest rest'
  rw [String.append_assoc, String.append_assoc, h, h', and_assoc]

theorem through (h : Delimits text same) (part : β → α) :
    Delimits (fun b => text (part b)) fun b b' => same (part b) (part b') :=
  fun b b' => h (part b) (part b')

theorem of_iff (h : Delimits text same) (hsame : ∀ a b, same a b ↔ same' a b) :
    Delimits text same' := by
  intro a b rest rest'
  rw [h, hsame]

theorem quote : Delimits Text.quote Eq :=
  fun _ _ _ _ => Text.quote_append_inj

/-- A list is told element by element if none of them looks like the end. -/
theorem textsBefore (closing : String) (h : Delimits text same)
    (hclosing : ∀ a rest rest', text a ++ rest ≠ closing ++ rest') :
    Delimits (textsBefore closing text) (List.Forall₂ same) := by
  intro as bs rest rest'
  induction as generalizing bs with
  | nil =>
      cases bs with
      | nil => simp [Keyring.textsBefore]
      | cons b bs =>
          have hne := hclosing b (Keyring.textsBefore closing text bs ++ rest') rest
          simpa [Keyring.textsBefore, String.append_assoc] using hne.symm
  | cons a as ih =>
      cases bs with
      | nil =>
          have hne := hclosing a (Keyring.textsBefore closing text as ++ rest) rest'
          simpa [Keyring.textsBefore, String.append_assoc] using hne
      | cons b bs =>
          have hcons : ∀ c cs, Keyring.textsBefore closing text (c :: cs) =
              text c ++ Keyring.textsBefore closing text cs := fun _ _ => rfl
          rw [hcons, hcons, String.append_assoc, String.append_assoc, h, ih,
            List.forall₂_cons, and_assoc]

/-- A list is told if its first element, whose text may differ, and the others are. -/
theorem textsAfter (ending : String) {others : List α → String} (h : Delimits text same)
    (hothers : Delimits others (List.Forall₂ same))
    (hending : ∀ a rest rest', text a ++ rest ≠ ending ++ rest') :
    Delimits (textsAfter ending text others) (List.Forall₂ same) := by
  intro as bs rest rest'
  cases as with
  | nil =>
      cases bs with
      | nil => simp [Keyring.textsAfter]
      | cons b bs =>
          have hne := hending b (others bs ++ rest') rest
          simpa [Keyring.textsAfter, String.append_assoc] using hne.symm
  | cons a as =>
      cases bs with
      | nil =>
          have hne := hending a (others as ++ rest) rest'
          simpa [Keyring.textsAfter, String.append_assoc] using hne
      | cons b bs =>
          rw [Keyring.textsAfter, Keyring.textsAfter, String.append_assoc, String.append_assoc, h,
            hothers, List.forall₂_cons, and_assoc]

end Delimits

/-! ## Figures -/

namespace Figure

/-- Both texts of a figure delimit. -/
structure Tells {α : Type} (figure : α → Figure) (same : α → α → Prop) : Prop where
  line : Delimits (fun a => (figure a).line) same
  spread : ∀ depth, Delimits (fun a => (figure a).spread depth) same

/-- A field that every value of a type has. -/
structure FieldOf (α : Type) where
  name : String
  figure : α → Figure
  same : α → α → Prop

/-- The fields of a value, as a record shows them. -/
def shownFields {α : Type} (fields : List (FieldOf α)) (a : α) : List (String × Figure) :=
  fields.map fun field => (field.name, field.figure a)

namespace Tells

variable {α β : Type} {same : α → α → Prop}

theorem plain {text : α → String} (h : Delimits text same) :
    Tells (fun a => .plain (text a)) same where
  line := h
  spread _ := h

theorem through {figure : α → Figure} (h : Tells figure same) (part : β → α) :
    Tells (fun b => figure (part b)) fun b b' => same (part b) (part b') where
  line := h.line.through part
  spread depth := (h.spread depth).through part

theorem of_iff {figure : α → Figure} {same' : α → α → Prop} (h : Tells figure same)
    (hsame : ∀ a b, same a b ↔ same' a b) : Tells figure same' where
  line := h.line.of_iff hsame
  spread depth := (h.spread depth).of_iff hsame

theorem separated_fieldLines {fields : List (FieldOf α)}
    (h : ∀ field ∈ fields, Tells field.figure field.same) :
    Delimits (fun a => separated (fieldLines (shownFields fields a)))
      fun a b => ∀ field ∈ fields, field.same a b := by
  induction fields with
  | nil => exact (Delimits.const "").of_iff (by simp)
  | cons field fields ih =>
      obtain ⟨hfield, hrest⟩ := List.forall_mem_cons.mp h
      have hshown := (Delimits.const (field.name ++ ": ")).append hfield.line
      cases fields with
      | nil => exact hshown.of_iff (by simp)
      | cons next fields =>
          have hboth := (hshown.append (Delimits.const ", ")).append (ih hrest)
          have htext : ∀ a, separated (fieldLines (shownFields (field :: next :: fields) a)) =
              field.name ++ ": " ++ (field.figure a).line ++ ", " ++
                separated (fieldLines (shownFields (next :: fields) a)) :=
            fun _ => String.intercalate_cons_cons
          simp only [htext]
          exact hboth.of_iff (by simp)

theorem spreadFields {fields : List (FieldOf α)} (depth : Nat)
    (h : ∀ field ∈ fields, Tells field.figure field.same) :
    Delimits (fun a => Figure.spreadFields depth (shownFields fields a))
      fun a b => ∀ field ∈ fields, field.same a b := by
  induction fields with
  | nil => exact (Delimits.const "").of_iff (by simp)
  | cons field fields ih =>
      obtain ⟨hfield, hrest⟩ := List.forall_mem_cons.mp h
      have hshown := (Delimits.const (margin depth ++ field.name ++ ": ")).append
        (hfield.spread depth)
      exact ((hshown.append (Delimits.const ",\n")).append (ih hrest)).of_iff (by simp)

/-- A record tells what its fields tell. -/
theorem record {fields : List (FieldOf α)} (name : String)
    (h : ∀ field ∈ fields, Tells field.figure field.same) :
    Tells (fun a => .record name (shownFields fields a) false)
      fun a b => ∀ field ∈ fields, field.same a b where
  line := by
    have hline := ((Delimits.const (name ++ " \x7b ")).append (separated_fieldLines h)).append
      (Delimits.const " \x7d")
    simpa [Figure.line] using hline
  spread depth := by
    have hspread := ((Delimits.const (name ++ " \x7b\n")).append
      (spreadFields (depth + 1) h)).append (Delimits.const (margin depth ++ "\x7d"))
    simpa [Figure.spread, String.append_assoc] using hspread

end Tells

/-! ## Mappings

A mapping shows its entries one after the other, each with a quoted key.  No
entry begins like the closing brace. -/

section Mapping

variable {α : Type} {key : α → String} {figure : α → Figure}

/-- The entries of a list, as a mapping shows them. -/
def shownEntries (key : α → String) (figure : α → Figure) (list : List α) :
    List (String × Figure) :=
  list.map fun a => (Text.quote (key a), figure a)

/-- An entry on one line. -/
def entryLine (key : α → String) (figure : α → Figure) (a : α) : String :=
  Text.quote (key a) ++ ": " ++ (figure a).line

/-- An entry on lines of its own. -/
def entrySpread (key : α → String) (figure : α → Figure) (depth : Nat) (a : α) : String :=
  margin depth ++ Text.quote (key a) ++ ": " ++ (figure a).spread depth ++ ",\n"

theorem separated_shownEntries (a : α) (list : List α) :
    separated (fieldLines (shownEntries key figure (a :: list))) ++ "\x7d" =
      entryLine key figure a ++
        textsBefore "\x7d" (fun b => ", " ++ entryLine key figure b) list := by
  induction list generalizing a with
  | nil => rfl
  | cons b list ih =>
      have hfirst : separated (fieldLines (shownEntries key figure (a :: b :: list))) =
          entryLine key figure a ++ ", " ++
            separated (fieldLines (shownEntries key figure (b :: list))) :=
        String.intercalate_cons_cons
      rw [hfirst, String.append_assoc, ih b]
      simp [textsBefore, String.append_assoc]

theorem line_shownEntries (list : List α) :
    (Figure.mapping (shownEntries key figure list)).line =
      "\x7b" ++ textsAfter "\x7d" (entryLine key figure)
        (textsBefore "\x7d" fun b => ", " ++ entryLine key figure b) list := by
  rw [line]
  cases list with
  | nil => rfl
  | cons a list => rw [String.append_assoc, separated_shownEntries, textsAfter]

theorem spreadFields_shownEntries
    (key : α → String) (figure : α → Figure) (depth : Nat) (closing : String) (list : List α) :
    spreadFields depth (shownEntries key figure list) ++ closing =
      textsBefore closing (entrySpread key figure depth) list := by
  induction list with
  | nil => exact String.empty_append
  | cons a list ih =>
      have hcons : spreadFields depth (shownEntries key figure (a :: list)) =
          entrySpread key figure depth a ++ spreadFields depth (shownEntries key figure list) :=
        rfl
      rw [hcons, String.append_assoc, ih]
      rfl

theorem spread_shownEntries (depth : Nat) (list : List α) :
    (Figure.mapping (shownEntries key figure list)).spread depth =
      "\x7b" ++ textsAfter "\x7d" (fun a => "\n" ++ entrySpread key figure (depth + 1) a)
        (textsBefore (margin depth ++ "\x7d") (entrySpread key figure (depth + 1))) list := by
  cases list with
  | nil => rfl
  | cons a list =>
      have hentries := spreadFields_shownEntries key figure (depth + 1)
        (margin depth ++ "\x7d") (a :: list)
      calc
        (Figure.mapping (shownEntries key figure (a :: list))).spread depth =
            "\x7b\n" ++ (spreadFields (depth + 1) (shownEntries key figure (a :: list)) ++
              (margin depth ++ "\x7d")) := by
          simp only [shownEntries, List.map_cons, spread, String.append_assoc]
        _ = "\x7b" ++ "\n" ++ textsBefore (margin depth ++ "\x7d")
              (entrySpread key figure (depth + 1)) (a :: list) := by
          rw [hentries]
          rfl
        _ = _ := by
          simp only [textsAfter, textsBefore, List.foldr_cons, String.append_assoc]

theorem margin_succ (depth : Nat) : margin (depth + 1) = margin depth ++ "    " := by
  apply String.toList_inj.mp
  simp [margin, Nat.mul_add, List.replicate_add]

theorem entrySpread_ne (depth : Nat) (a : α) (rest rest' : String) :
    entrySpread key figure (depth + 1) a ++ rest ≠ margin depth ++ "\x7d" ++ rest' := by
  intro htext
  rw [entrySpread, margin_succ] at htext
  simp only [String.append_assoc, String.append_right_inj] at htext
  have hchars := congrArg String.toList htext
  simp at hchars

theorem Tells.mapping {same : α → α → Prop} (h : Tells figure same) :
    Tells (fun list => .mapping (shownEntries key figure list))
      (List.Forall₂ fun a b => key a = key b ∧ same a b) where
  line := by
    have hentry : Delimits (entryLine key figure) fun a b => key a = key b ∧ same a b :=
      (((Delimits.quote.through key).append (Delimits.const ": ")).append h.line).of_iff (by simp)
    have hnext : Delimits (fun a => ", " ++ entryLine key figure a)
        fun a b => key a = key b ∧ same a b :=
      ((Delimits.const ", ").append hentry).of_iff (by simp)
    have hothers := hnext.textsBefore "\x7d" fun a rest rest' htext => by
      have hchars := congrArg String.toList htext
      simp at hchars
    have hlist := hentry.textsAfter "\x7d" hothers fun a rest rest' htext => by
      have hchars := congrArg String.toList htext
      simp [entryLine, Text.quote, Text.quoteChars] at hchars
    simp only [line_shownEntries]
    exact ((Delimits.const "\x7b").append hlist).of_iff (by simp)
  spread depth := by
    have hentry : Delimits (entrySpread key figure (depth + 1))
        fun a b => key a = key b ∧ same a b :=
      (((((Delimits.const (margin (depth + 1))).append (Delimits.quote.through key)).append
        (Delimits.const ": ")).append (h.spread (depth + 1))).append
        (Delimits.const ",\n")).of_iff (by simp)
    have hfirst : Delimits (fun a => "\n" ++ entrySpread key figure (depth + 1) a)
        fun a b => key a = key b ∧ same a b :=
      ((Delimits.const "\n").append hentry).of_iff (by simp)
    have hothers := hentry.textsBefore (margin depth ++ "\x7d") (entrySpread_ne depth)
    have hlist := hfirst.textsAfter "\x7d" hothers fun a rest rest' htext => by
      have hchars := congrArg String.toList htext
      simp at hchars
    simp only [spread_shownEntries]
    exact ((Delimits.const "\x7b").append hlist).of_iff (by simp)

end Mapping
end Figure

/-! ## Credentials and stores -/

/-- The part of a credential that is no secret. -/
def Credential.account (credential : Credential) : String × String :=
  (credential.username, credential.domain)

theorem Credential.account_eq_iff (one two : Credential) :
    one.account = two.account ↔ one.redacted = two.redacted := by
  cases one
  cases two
  simp [account, redacted]

theorem Mode.delimits_label : Delimits Mode.label Eq := by
  intro one two rest rest'
  cases one <;> cases two <;> simp only [← String.toList_inj, label] <;> simp

theorem WritePolicy.delimits_label : Delimits WritePolicy.label Eq := by
  intro one two rest rest'
  cases one <;> cases two <;> simp only [← String.toList_inj, label] <;> simp

theorem Credential.tells_account :
    Figure.Tells Credential.figure fun one two => one.account = two.account := by
  let fields : List (Figure.FieldOf Credential) :=
    [⟨"username", fun c => .quoted c.username, fun one two => one.username = two.username⟩,
      ⟨"domain", fun c => .quoted c.domain, fun one two => one.domain = two.domain⟩,
      ⟨"secret", fun c => c.secret.figure, fun _ _ => True⟩]
  have hquoted : Figure.Tells Figure.quoted Eq := .plain .quote
  have hfields : ∀ field ∈ fields, Figure.Tells field.figure field.same := by
    simp only [fields, List.forall_mem_cons]
    exact ⟨hquoted.through Credential.username, hquoted.through Credential.domain,
      .plain (.const Secret.placeholder), by simp⟩
  exact (Figure.Tells.record "CredentialTuple" hfields).of_iff (by simp [fields, account])

/-- Two lists of entries that differ in secrets at most. -/
def SameAccounts : List (String × Credential) → List (String × Credential) → Prop :=
  List.Forall₂ fun one two => one.1 = two.1 ∧ one.2.account = two.2.account

theorem sameAccounts_iff {first second : List (String × Credential)} :
    SameAccounts first second ↔
      first.map (fun entry => (entry.1, entry.2.redacted)) =
        second.map fun entry => (entry.1, entry.2.redacted) := by
  rw [← List.forall₂_eq_eq_eq, List.forall₂_map_left_iff, List.forall₂_map_right_iff]
  simp only [SameAccounts, Prod.mk.injEq, Credential.account_eq_iff]

/-- A store whose entries are listed in some order. -/
structure ListedStore where
  store : Store
  entries : Mode → List (String × Credential)

namespace ListedStore

def figure (listed : ListedStore) : Figure :=
  listed.store.figureAround fun set => .listed (listed.entries set)

/-- What the figures of two listed stores have to agree in. -/
structure Alike (one two : ListedStore) : Prop where
  mode : one.store.mode = two.store.mode
  policy : one.store.defaultPolicy = two.store.defaultPolicy
  entries : ∀ set, SameAccounts (one.entries set) (two.entries set)

theorem tells_alike : Figure.Tells figure Alike := by
  let fields : List (Figure.FieldOf ListedStore) :=
    [⟨"persistent", fun s => .listed (s.entries .persistent),
        fun one two => SameAccounts (one.entries .persistent) (two.entries .persistent)⟩,
      ⟨"temporary", fun s => .listed (s.entries .temporary),
        fun one two => SameAccounts (one.entries .temporary) (two.entries .temporary)⟩,
      ⟨"mode", fun s => s.store.mode.figure, fun one two => one.store.mode = two.store.mode⟩,
      ⟨"default_policy", fun s => s.store.defaultPolicy.figure,
        fun one two => one.store.defaultPolicy = two.store.defaultPolicy⟩]
  have hentries : Figure.Tells Figure.listed SameAccounts :=
    (Credential.tells_account.through Prod.snd).mapping
  have hmode : Figure.Tells Mode.figure Eq := .plain Mode.delimits_label
  have hpolicy : Figure.Tells WritePolicy.figure Eq := .plain WritePolicy.delimits_label
  have hfields : ∀ field ∈ fields, Figure.Tells field.figure field.same := by
    simp only [fields, List.forall_mem_cons]
    exact ⟨hentries.through fun s : ListedStore => s.entries .persistent,
      hentries.through fun s : ListedStore => s.entries .temporary,
      hmode.through fun s : ListedStore => s.store.mode,
      hpolicy.through fun s : ListedStore => s.store.defaultPolicy, by simp⟩
  refine (Figure.Tells.record "CredentialStore" hfields).of_iff fun one two => ?_
  simp only [fields, List.forall_mem_cons]
  constructor
  · rintro ⟨hpersistent, htemporary, hmode, hpolicy, -⟩
    exact ⟨hmode, hpolicy, fun set => by cases set <;> assumption⟩
  · rintro ⟨hmode, hpolicy, hentries⟩
    exact ⟨hentries .persistent, hentries .temporary, hmode, hpolicy, by simp⟩

end ListedStore

/-- Two stores that differ in secrets at most. -/
structure Store.ShownAlike (one two : Store) : Prop where
  mode : one.mode = two.mode
  policy : one.defaultPolicy = two.defaultPolicy
  entries : ∀ (set : Mode) (key : String),
    (one.entries set)[key]?.map Credential.account =
      (two.entries set)[key]?.map Credential.account

theorem Entries.accounts_eq_iff (one two : Entries) :
    (∀ key : String, one[key]?.map Credential.account = two[key]?.map Credential.account) ↔
      Entries.through .redacted one = Entries.through .redacted two := by
  have hsame : ∀ c d : Option Credential,
      c.map Credential.account = d.map Credential.account ↔
        c.map Credential.redacted = d.map Credential.redacted := by
    intro c d
    cases c <;> cases d <;> simp [Credential.account_eq_iff]
  simp only [hsame, ← Entries.getElem?_through]
  constructor
  · intro hkeys
    exact Std.ExtTreeMap.ext_getElem? fun key => hkeys key
  · intro heq key
    rw [heq]

theorem ListedStore.Alike.shownAlike
    {one two : ListedStore} (h : one.Alike two) (hone : one.store.IsListing one.entries)
    (htwo : two.store.IsListing two.entries) : one.store.ShownAlike two.store := by
  refine ⟨h.mode, h.policy, fun set => (Entries.accounts_eq_iff _ _).mpr ?_⟩
  have hsame := sameAccounts_iff.mp (h.entries set)
  apply Std.ExtTreeMap.ext_toList
  rw [Entries.toList_through, Entries.toList_through]
  exact ((hone set).symm.map _).trans (hsame ▸ (htwo set).map _)

/-- A store with its entries in the order of their keys. -/
def Store.listed (store : Store) : ListedStore :=
  ⟨store, fun set => (store.entries set).toList⟩

theorem Store.ShownAlike.listed {one two : Store} (h : one.ShownAlike two) :
    one.listed.Alike two.listed := by
  refine ⟨h.mode, h.policy, fun set => sameAccounts_iff.mpr ?_⟩
  have hthrough := (Entries.accounts_eq_iff _ _).mp (h.entries set)
  simp only [Store.listed, ← Entries.toList_through, hthrough]

theorem Store.figures_eq_iff (one two : Store) :
    (one.figure.line = two.figure.line ↔ one.ShownAlike two) ∧
      (one.figure.pretty = two.figure.pretty ↔ one.ShownAlike two) := by
  have hlisted : one.listed.Alike two.listed ↔ one.ShownAlike two :=
    ⟨fun h => h.shownAlike (fun _ => .refl _) fun _ => .refl _, Store.ShownAlike.listed⟩
  have hline := ListedStore.tells_alike.line.eq_iff one.listed two.listed
  have hpretty := (ListedStore.tells_alike.spread 0).eq_iff one.listed two.listed
  exact ⟨hline.trans hlisted, hpretty.trans hlisted⟩

/-- Credentials and stores have the same diagnostic text exactly if they differ in secrets at
most.  No order is promised for a set of several entries, but whatever the orders, stores that
differ in more have different texts. -/
theorem diagnostics_tell_all_but_secrets :
    (∀ one two : Credential,
      (one.figure.line = two.figure.line ↔
        one.username = two.username ∧ one.domain = two.domain) ∧
      (one.figure.pretty = two.figure.pretty ↔
        one.username = two.username ∧ one.domain = two.domain)) ∧
    (∀ one two : Store,
      (∀ set, (one.entries set).size ≤ 1) → (∀ set, (two.entries set).size ≤ 1) →
        (one.figure.line = two.figure.line ↔ one.ShownAlike two) ∧
          (one.figure.pretty = two.figure.pretty ↔ one.ShownAlike two)) ∧
    (∀ one two : ListedStore,
      one.store.IsListing one.entries → two.store.IsListing two.entries →
        (one.figure.line = two.figure.line → one.store.ShownAlike two.store) ∧
          (one.figure.pretty = two.figure.pretty → one.store.ShownAlike two.store)) := by
  refine ⟨?_, ?_, ?_⟩
  · intro one two
    have haccount : one.account = two.account ↔
        one.username = two.username ∧ one.domain = two.domain := Prod.mk_inj
    exact ⟨(Credential.tells_account.line.eq_iff one two).trans haccount,
      ((Credential.tells_account.spread 0).eq_iff one two).trans haccount⟩
  · intro one two _ _
    exact one.figures_eq_iff two
  · intro one two hone htwo
    have hline := ListedStore.tells_alike.line.eq_iff one two
    have hpretty := (ListedStore.tells_alike.spread 0).eq_iff one two
    exact ⟨fun htext => (hline.mp htext).shownAlike hone htwo,
      fun htext => (hpretty.mp htext).shownAlike hone htwo⟩

/-- A name that imitates the text around it is told from the name that it imitates, and another
secret is not told at all. -/
theorem imitated_field_is_told :
    let single : Credential → Store := fun credential =>
      { persistent := (∅ : Entries).insert "files\\users" credential }
    let one := single ⟨"a\", domain: \"b", "c", ⟨"pw1"⟩⟩
    let two := single ⟨"a", "b\", domain: \"c", ⟨"pw1"⟩⟩
    let other := single ⟨"a", "b\", domain: \"c", ⟨"pw2"⟩⟩
    one.figure.line ≠ two.figure.line ∧ two.figure.pretty = other.figure.pretty ∧
      one.listed.figure.pretty ≠ two.listed.figure.pretty := by
  intro single one two other
  obtain ⟨-, hstores, hlisted⟩ := diagnostics_tell_all_but_secrets
  have hsmall : ∀ credential set, ((single credential).entries set).size ≤ 1 := by
    intro credential set
    cases set <;> simp [single, Store.entries, Std.ExtTreeMap.size_insert]
  have hlookup : ∀ credential, ((single credential).entries .persistent)["files\\users"]? =
      some credential := by
    intro credential
    simp [single, Store.entries]
  have hunlike : ¬ one.ShownAlike two := by
    intro halike
    have hentry := halike.entries .persistent "files\\users"
    rw [hlookup, hlookup] at hentry
    simp [Credential.account] at hentry
  have halike : two.ShownAlike other := by
    refine ⟨rfl, rfl, fun set key => ?_⟩
    cases set with
    | persistent =>
        simp only [two, other, single, Store.entries, Std.ExtTreeMap.getElem?_insert]
        split <;> rfl
    | temporary => rfl
  refine ⟨?_, ?_, ?_⟩
  · exact fun htext => hunlike ((hstores one two (hsmall _) (hsmall _)).1.mp htext)
  · exact (hstores two other (hsmall _) (hsmall _)).2.mpr halike
  · exact fun htext =>
      hunlike ((hlisted one.listed two.listed (fun _ => .refl _) fun _ => .refl _).2 htext)

end Keyring
