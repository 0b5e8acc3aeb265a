import Keyring.Proofs.TomlTables

/-!
# The integers of a document

Every reader of integers checks that they fit 64 bits with their sign, so an
integer under a key of the root table is one of those.  What sections and dotted
keys add to the root table are tables, however deep they reach.
-/

namespace Keyring
namespace Toml

def Item.InRange (item : Item) : Prop :=
  ∀ value, item = .integer value → -2 ^ 63 ≤ value ∧ value < 2 ^ 63

def ReadsInRange (reader : List Char → Option (Item × List Char)) : Prop :=
  ∀ text item rest, reader text = some (item, rest) → item.InRange

theorem inRange_of_integer? {negative : Bool} {size : Nat} {value : Int}
    (hvalue : integer? negative size = some value) : (Item.integer value).InRange := by
  intro other hother
  obtain rfl := Item.integer.inj hother
  have hpow : Nat.pow 2 63 = 2 ^ 63 := rfl
  rw [integer?, hpow] at hvalue
  split at hvalue <;> split at hvalue <;> simp only [Option.some.injEq, reduceCtorEq] at hvalue
  · omega
  · omega

theorem inRange_of_map_integer? {negative : Bool} {size : Nat} {item : Item}
    {text rest : List Char}
    (hread : (integer? negative size).map (fun value => (Item.integer value, text)) =
      some (item, rest)) : item.InRange := by
  obtain ⟨value, hvalue, heq⟩ := Option.map_eq_some_iff.mp hread
  cases heq
  exact inRange_of_integer? hvalue

theorem inRange_of_map_real? {negative : Bool} {whole fraction : List Char} {exponent : Int}
    {item : Item} {text rest : List Char}
    (hread : (real? negative whole fraction exponent).map (·, text) = some (item, rest)) :
    item.InRange := by
  rintro value rfl
  simp [real?] at hread

theorem inRange_of_map {α : Type} {make : α → Item × List Char}
    (hmake : ∀ a, (make a).1.InRange) {found : Option α} {item : Item} {rest : List Char}
    (hread : found.map make = some (item, rest)) : item.InRange := by
  obtain ⟨a, _, heq⟩ := Option.map_eq_some_iff.mp hread
  have hitem := hmake a
  rw [heq] at hitem
  exact hitem

theorem scanBased_inRange (base : Nat) (isDigit : Char → Bool) :
    ReadsInRange (scanBased base isDigit) := by
  intro text item rest hread
  unfold scanBased at hread
  split at hread
  · exact inRange_of_map_integer? hread
  · cases hread

theorem scanDecimalEnd_inRange (negative : Bool) (whole : List Char) :
    ReadsInRange (scanDecimalEnd negative whole) := by
  intro text item rest hread
  unfold scanDecimalEnd at hread
  split at hread
  -- A fraction, which an exponent may follow.
  case h_1 =>
    split at hread
    · cases hread
    · split at hread
      · exact inRange_of_map_real? hread
      · cases hread
    · split at hread
      · exact inRange_of_map_real? hread
      · cases hread
    · exact inRange_of_map_real? hread
  case h_2 | h_3 =>
    split at hread
    · exact inRange_of_map_real? hread
    · cases hread
  case h_4 => exact inRange_of_map_integer? hread

theorem scanUnsigned_inRange (negative : Bool) : ReadsInRange (scanUnsigned negative) := by
  intro text item rest hread
  unfold scanUnsigned at hread
  split at hread
  · cases hread
    simp [Item.InRange]
  · cases hread
    simp [Item.InRange]
  · split at hread
    · exact scanDecimalEnd_inRange _ _ _ _ _ hread
    · cases hread

theorem scanNumber_inRange : ReadsInRange scanNumber := by
  intro text item rest hread
  unfold scanNumber at hread
  split at hread
  · exact scanBased_inRange _ _ _ _ _ hread
  · exact scanBased_inRange _ _ _ _ _ hread
  · exact scanBased_inRange _ _ _ _ _ hread
  · exact scanUnsigned_inRange _ _ _ _ hread

theorem scanQuantity_inRange : ReadsInRange scanQuantity := by
  intro text item rest hread
  unfold scanQuantity at hread
  split at hread
  · exact inRange_of_map (fun _ => by simp [Item.InRange]) hread
  · exact scanNumber_inRange _ _ _ hread

theorem scanInline_inRange (value : ItemReader) : ReadsInRange (scanInline value) := by
  intro text item rest hread
  unfold scanInline at hread
  split at hread
  · cases hread
    simp [Item.InRange]
  · split at hread
    · cases hread
    · exact inRange_of_map (fun _ => by simp [Item.InRange]) hread

/-- Whatever the reader of its elements, a value is in range itself. -/
theorem scanValueWith_inRange (value : ItemReader) : ReadsInRange (scanValueWith value) := by
  intro text item rest hread
  unfold scanValueWith at hread
  split at hread
  · exact inRange_of_map (fun _ => by simp [Item.InRange]) hread
  · exact scanInline_inRange _ _ _ _ hread
  · cases hread
    simp [Item.InRange]
  · cases hread
    simp [Item.InRange]
  · split at hread
    · exact inRange_of_map (fun _ => by simp [Item.InRange]) hread
    · split at hread
      · exact scanQuantity_inRange _ _ _ hread
      · cases hread
  · cases hread

theorem scanValue_inRange (depth : Nat) : ReadsInRange (scanValue depth) := by
  intro text item rest hread
  cases depth with
  | zero =>
      unfold scanValue at hread
      split at hread
      · cases hread
      · cases hread
      · exact scanValueWith_inRange _ _ _ _ hread
  | succ depth => exact scanValueWith_inRange _ _ _ _ hread

def Line.InRange (line : Line) : Prop :=
  line.item.InRange

theorem scanLine_inRange {value : ItemReader} (hvalue : ReadsInRange value) {text rest : List Char}
    {line : Line} (hread : scanLine value text = some (line, rest)) : line.InRange := by
  unfold scanLine at hread
  split at hread
  · obtain ⟨⟨item, after⟩, hitem, heq⟩ := Option.map_eq_some_iff.mp hread
    cases heq
    exact hvalue _ _ _ hitem
  · cases hread

def Statement.InRange (statement : Statement) : Prop :=
  ∀ line, statement = .line line → line.InRange

theorem scanStatement_inRange {text rest : List Char} {statement : Statement}
    (hread : scanStatement text = some (statement, rest)) : statement.InRange := by
  rintro line rfl
  unfold scanStatement at hread
  split at hread
  · split at hread
    · simp at hread
    · cases hread
  · split at hread
    · simp at hread
    · split at hread
      · rename_i found after hline
        have heq : found = line := by
          obtain ⟨_, _, heq⟩ := Option.map_eq_some_iff.mp hread
          cases heq
          rfl
        subst heq
        exact scanLine_inRange (scanValue_inRange _) hline
      · cases hread
  · cases hread

theorem scanStatements_inRange {bound : Nat} {text : List Char} {statements : List Statement}
    (hread : scanStatements bound text = some statements) :
    ∀ statement ∈ statements, statement.InRange := by
  induction bound generalizing text statements with
  | zero =>
      unfold scanStatements at hread
      split at hread
      · cases hread
        simp
      · cases hread
  | succ bound ih =>
      unfold scanStatements at hread
      split at hread
      · cases hread
        simp
      · simp only at hread
        split at hread
        · cases hread
        · rename_i statement rest hstatement
          obtain ⟨others, hothers, rfl⟩ := Option.map_eq_some_iff.mp hread
          simp only [List.forall_mem_cons]
          exact ⟨scanStatement_inRange hstatement, ih hothers⟩

theorem sections_inRange {statements : List Statement}
    (hrange : ∀ statement ∈ statements, statement.InRange) :
    ∀ line ∈ (sections statements).1, line.InRange := by
  induction statements with
  | nil => simp [sections]
  | cons statement statements ih =>
      obtain ⟨hfirst, hrest⟩ := List.forall_mem_cons.mp hrange
      cases statement with
      | blank => exact ih hrest
      | header header => simp [sections]
      | line line =>
          simp only [sections, List.forall_mem_cons]
          exact ⟨hfirst line rfl, ih hrest⟩

def Table.InRange (table : Table) : Prop :=
  ∀ entry ∈ table, entry.item.InRange

theorem Item.inRange_of_isTable {item : Item} (htable : item.IsTable) : item.InRange := by
  rintro value rfl
  cases htable

theorem Table.inRange_concat {table : Table} (htable : table.InRange) {entry : Entry Item}
    (hentry : entry.item.InRange) : Table.InRange (table ++ [entry]) := by
  intro other hother
  rcases List.mem_append.mp hother with hold | hnew
  · exact htable other hold
  · obtain rfl := List.mem_singleton.mp hnew
    exact hentry

theorem Table.inRange_of_grows {table next : Table} (htable : table.InRange)
    (hgrows : table.Grows Item.InRange next) : next.InRange := by
  cases hgrows with
  | added hnew hitem => exact inRange_concat htable hitem
  | @moved entry hitem =>
      have hrest : Table.InRange (Table.erase table entry.key.text) :=
        fun other hother => htable other (List.mem_of_mem_filter hother)
      exact inRange_concat hrest hitem
  | changed hkey hitem =>
      intro entry hentry
      obtain ⟨before, hbefore, rfl⟩ := List.mem_map.mp hentry
      split
      · exact hitem before
      · exact htable before hbefore

/-- The integers under the keys of a document are in range. -/
theorem parse_inRange {text : List Char} {table : Table} (hparse : parse text = some table) :
    table.InRange := by
  have hempty : Table.InRange [] := by simp [Table.InRange]
  exact keeps_of_parse (fun _ => Item.inRange_of_isTable)
    (fun _ _ _ hread => sections_inRange (scanStatements_inRange hread))
    (fun _ _ => Table.inRange_of_grows) hempty hparse

end Toml
end Keyring
