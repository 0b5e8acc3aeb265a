import Keyring.Toml.Document
import Mathlib.Tactic

/-!
# How the root table of a document grows

Lines and sections are added to the root table one after the other.  Each of them
gives it a new entry, moves an entry to its end, or changes what some entry holds.
`Grows` lists these, so a property of root tables needs one case for each and never
opens the definitions that add to a table.
-/

namespace Keyring
namespace Toml

/-- A table, or tables that were opened under one header. -/
def Item.IsTable : Item → Prop
  | .table .. | .tables _ => True
  | _ => False

/-- What an addition makes of a table, where the items that it puts there are of a kind. -/
inductive Table.Grows (kind : Item → Prop) (table : Table) : Table → Prop
  | added {entry : Entry Item} (hnew : Table.find? table entry.key.text = none)
      (hitem : kind entry.item) : Grows kind table (table ++ [entry])
  | moved {entry : Entry Item} (hitem : kind entry.item) :
      Grows kind table (Table.erase table entry.key.text ++ [entry])
  | changed {name : String} {change : Entry Item → Entry Item}
      (hkey : ∀ entry, (change entry).key = entry.key)
      (hitem : ∀ entry, kind (change entry).item) :
      Grows kind table (Table.replace table name change)

variable {kind : Item → Prop} {table added : Table}

/-- Below the first key of a way, an addition only puts tables into the root table. -/
theorem grows_of_alterAt (htable : ∀ item, item.IsTable → kind item) {dotted : Bool}
    {change : Origin → Table → Option Table} {way : List Key} {origin : Origin}
    (hchange : ∀ altered, change origin table = some altered → table.Grows kind altered)
    (halter : alterAt dotted change way origin table = some added) : table.Grows kind added := by
  -- The way need not be followed: this table only changes at its first key.
  cases way with
  | nil => exact hchange added halter
  | cons key way =>
      unfold alterAt at halter
      split at halter
      next hnew =>
        obtain ⟨inner, _, rfl⟩ := Option.map_eq_some_iff.mp halter
        exact .added hnew (htable _ trivial)
      next entry hfound =>
        split at halter
        · split at halter
          · cases halter
          · obtain ⟨inner, _, rfl⟩ := Option.map_eq_some_iff.mp halter
            exact .changed (fun _ => rfl) fun _ => htable _ trivial
        · split at halter
          · cases halter
          · obtain ⟨inner, _, rfl⟩ := Option.map_eq_some_iff.mp halter
            exact .changed (fun _ => rfl) fun _ => htable _ trivial
        · cases halter

theorem grows_of_addLine (htable : ∀ item, item.IsTable → kind item) {line : Line}
    (hline : kind line.item) (hadd : addLine table line = some added) :
    table.Grows kind added := by
  apply grows_of_alterAt htable _ hadd
  intro altered hchange
  split at hchange
  · cases hchange
  · rename_i hfree
    cases hchange
    obtain ⟨-, hnew⟩ : line.path.way = [] ∧ Table.find? table line.path.last.text = none := by
      simpa using hfree
    exact .added hnew hline

namespace Section

theorem grows_of_addTable (htable : ∀ item, item.IsTable → kind item) {s : Section}
    (hadd : s.addTable table = some added) : table.Grows kind added := by
  have hopened : ∀ filled : Table, table.Grows kind (Table.erase table s.header.path.last.text ++
      [{ key := s.header.path.last, span := some s.span, item := .table .header filled }]) :=
    fun filled => @Table.Grows.moved kind table
      ⟨s.header.path.last, some s.span, .table .header filled⟩ (htable _ trivial)
  simp only [addTable] at hadd
  split at hadd
  · obtain ⟨filled, _, rfl⟩ := Option.map_eq_some_iff.mp hadd
    exact hopened filled
  · split at hadd
    · obtain ⟨filled, _, rfl⟩ := Option.map_eq_some_iff.mp hadd
      exact hopened filled
    · cases hadd

theorem grows_of_addElement (htable : ∀ item, item.IsTable → kind item) {s : Section}
    (hadd : s.addElement table = some added) : table.Grows kind added := by
  simp only [addElement] at hadd
  obtain ⟨filled, _, hadd⟩ := Option.bind_eq_some_iff.mp hadd
  split at hadd
  next hnew =>
    cases hadd
    exact .added hnew (htable _ trivial)
  next entry hfound =>
    split at hadd
    · cases hadd
      exact .changed (fun _ => rfl) fun _ => htable _ trivial
    · cases hadd

theorem grows_of_addTo (htable : ∀ item, item.IsTable → kind item) {s : Section}
    (hadd : addTo table s = some added) : table.Grows kind added := by
  apply grows_of_alterAt htable _ hadd
  intro altered hchange
  cases hheader : s.header with
  | table path span =>
      simp only [hheader] at hchange
      exact grows_of_addTable htable hchange
  | element path span =>
      simp only [hheader] at hchange
      exact grows_of_addElement htable hchange

end Section

theorem foldlM_keeps {α : Type} {kept : Table → Prop} {step : Table → α → Option Table}
    {items : List α}
    (hstep : ∀ item ∈ items, ∀ table next : Table, kept table → step table item = some next →
      kept next)
    {last : Table} (htable : kept table) (hrun : items.foldlM step table = some last) :
    kept last := by
  induction items generalizing table with
  | nil =>
      cases hrun
      exact htable
  | cons item items ih =>
      obtain ⟨hitem, hrest⟩ := List.forall_mem_cons.mp hstep
      rw [List.foldlM_cons] at hrun
      obtain ⟨next, hnext, hrun⟩ := Option.bind_eq_some_iff.mp hrun
      exact ih hrest (hitem table next htable hnext) hrun

/-- What every addition keeps, the root table of a document has. -/
theorem keeps_of_parse {kept : Table → Prop} (htable : ∀ item, item.IsTable → kind item)
    (hlines : ∀ bound text statements, scanStatements bound text = some statements →
      ∀ line ∈ (sections statements).1, kind line.item)
    (hgrows : ∀ table next : Table, kept table → table.Grows kind next → kept next)
    (hempty : kept []) {text : List Char} (hparse : parse text = some table) : kept table := by
  unfold parse at hparse
  simp only [Option.bind_eq_bind, Option.bind_eq_some_iff] at hparse
  obtain ⟨statements, hstatements, root, hroot, hrest⟩ := hparse
  have hfirst : kept root := by
    refine foldlM_keeps (fun line hline before after hbefore hadd => ?_) hempty hroot
    have hitem := hlines _ _ statements hstatements line hline
    exact hgrows before after hbefore (grows_of_addLine htable hitem hadd)
  exact foldlM_keeps (fun _ _ before after hbefore hadd =>
    hgrows before after hbefore (Section.grows_of_addTo htable hadd)) hfirst hrest

end Toml
end Keyring
