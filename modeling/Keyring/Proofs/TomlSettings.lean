import Keyring.Proofs.Capacity

/-!
# What a document says of a configuration

The root table of a document gives each setting a value or leaves it at its default.
No key is there twice, so every entry has its say.  The settings are read exactly
if every entry fits, and what is reported otherwise is what the first entry that
does not fit is reported for when it is alone.
-/

namespace Keyring
namespace Toml

/-! ## Keys -/

def Table.names (table : Table) : List String :=
  table.map fun entry => entry.key.text

def Table.Distinct (table : Table) : Prop :=
  table.names.Nodup

theorem Table.distinct_concat {table : Table} (htable : table.Distinct) {entry : Entry Item}
    (hnew : Table.find? table entry.key.text = none) : Table.Distinct (table ++ [entry]) := by
  rw [Distinct, names, List.map_append, List.map_singleton, List.nodup_append]
  refine ⟨htable, List.nodup_singleton _, ?_⟩
  intro name hname last hlast
  obtain ⟨other, hother, rfl⟩ := List.mem_map.mp hname
  rw [List.mem_singleton.mp hlast]
  simpa using List.find?_eq_none.mp hnew other hother

theorem Table.distinct_of_grows {table next : Table} {kind : Item → Prop}
    (htable : table.Distinct) (hgrows : table.Grows kind next) : next.Distinct := by
  cases hgrows with
  | added hnew hitem => exact distinct_concat htable hnew
  | @moved entry hitem =>
      have hrest : Table.Distinct (Table.erase table entry.key.text) :=
        htable.sublist (List.filter_sublist.map _)
      have hgone : Table.find? (Table.erase table entry.key.text) entry.key.text = none := by
        refine List.find?_eq_none.mpr fun other hother => ?_
        simpa [erase] using (List.mem_filter.mp hother).2
      exact distinct_concat hrest hgone
  | @changed name change hkey hitem =>
      have hsame : (Table.replace table name change).names = table.names := by
        rw [names, replace, List.map_map]
        refine List.map_congr_left fun entry _ => ?_
        simp only [Function.comp_apply]
        split
        · rw [hkey]
        · rfl
      rw [Distinct, hsame]
      exact htable

/-- No key of a document is there twice. -/
theorem parse_distinct {text : List Char} {table : Table} (hparse : parse text = some table) :
    table.Distinct :=
  @keeps_of_parse (fun _ => True) _ _ (fun _ _ => trivial) (fun _ _ _ _ _ _ => trivial)
    (fun _ _ => Table.distinct_of_grows) List.nodup_nil _ hparse

/-! ## Readings -/

/-- An empty table or an empty array. -/
def Item.IsHollow : Item → Prop
  | .table _ entries => entries = []
  | .array elements => elements = []
  | .tables elements => elements = []
  | _ => False

/-- A policy by its name, or by a table with nothing but an empty item under that name. -/
def Item.NamesPolicy (item : Item) (policy : WritePolicy) : Prop :=
  item = .text policy.name ∨
    ∃ origin entry, item = .table origin [entry] ∧ entry.key.text = policy.name ∧
      entry.item.IsHollow

/-- What an entry says of a configuration, if it is there for one of its settings. -/
structure Entry.Tells (entry : Entry Item) (config : Config) : Prop where
  startTemporary : entry.key.text = "start_in_temp_mode" →
    entry.item = .boolean config.startTemporary
  defaultPolicy : entry.key.text = "default_policy" → entry.item.NamesPolicy config.defaultPolicy
  queueCapacity : entry.key.text = "client_queue_capacity" →
    entry.item = .integer config.queueCapacity.toNat

/-- An entry has a value that its setting can have, or is passed over. -/
structure Entry.Fits (entry : Entry Item) : Prop where
  startTemporary : entry.key.text = "start_in_temp_mode" → ∃ value, entry.item = .boolean value
  defaultPolicy : entry.key.text = "default_policy" → ∃ policy, entry.item.NamesPolicy policy
  queueCapacity : entry.key.text = "client_queue_capacity" →
    ∃ capacity : Nat, entry.item = .integer capacity

/-- A table says a configuration, where defaults go without saying. -/
structure Describes (table : Table) (config : Config) : Prop where
  entries : ∀ entry ∈ table, entry.Tells config
  startTemporary : "start_in_temp_mode" ∉ table.names → config.startTemporary = false
  defaultPolicy : "default_policy" ∉ table.names → config.defaultPolicy = .overwrite
  queueCapacity : "client_queue_capacity" ∉ table.names → config.queueCapacity = 64

theorem located_eq_ok_iff {α : Type} {mark : Span} {read : Except Complaint α} {value : α} :
    located mark read = .ok value ↔ read = .ok value := by
  cases read <;> simp [located]

theorem flag?_eq_ok_iff {item : Item} {value : Bool} :
    flag? item = .ok value ↔ item = .boolean value := by
  cases item <;> simp [flag?]

theorem capacity?_eq_ok_iff {item : Item} (hrange : item.InRange) {capacity : UInt64} :
    capacity? item = .ok capacity ↔ item = .integer capacity.toNat := by
  cases item with
  | integer value =>
      obtain ⟨-, hbelow⟩ := hrange value rfl
      simp only [capacity?, Item.integer.injEq]
      constructor
      · intro hread
        split at hread
        · cases hread
        · obtain rfl := Except.ok.inj hread
          rw [UInt64.toNat_ofNat', Nat.mod_eq_of_lt (by omega)]
          omega
      · rintro rfl
        rw [if_neg (by omega), Int.toNat_natCast, UInt64.ofNat_toNat]
  | _ => simp [capacity?]

theorem policyNamed?_eq_ok_iff {name : String} {policy : WritePolicy} :
    policyNamed? name = .ok policy ↔ name = policy.name := by
  constructor
  · intro hread
    unfold policyNamed? at hread
    split at hread
    · rename_i found hfound
      obtain rfl := Except.ok.inj hread
      have hname : found.name = name := by simpa using List.find?_some hfound
      exact hname.symm
    · cases hread
  · rintro rfl
    simp [policyNamed?, WritePolicy.ofName?_name]

theorem checkEmpty_eq_ok_iff {item : Item} : checkEmpty item = .ok () ↔ item.IsHollow := by
  cases item <;> simp [checkEmpty, Item.IsHollow]

theorem policy?_eq_ok_iff {mark : Span} {item : Item} {policy : WritePolicy} :
    policy? mark item = .ok policy ↔ item.NamesPolicy policy := by
  cases item with
  | text name => simp [policy?, Item.NamesPolicy, located_eq_ok_iff, policyNamed?_eq_ok_iff]
  | table origin entries =>
      cases entries with
      | nil => simp [policy?, Item.NamesPolicy]
      | cons entry rest =>
          cases rest with
          | cons second rest => simp [policy?, Item.NamesPolicy]
          | nil =>
              constructor
              · intro hread
                obtain ⟨named, hname, hread⟩ := exists_of_bind_eq_ok hread
                obtain ⟨_, hempty, hread⟩ := exists_of_bind_eq_ok hread
                obtain rfl := Except.ok.inj hread
                rw [located_eq_ok_iff] at hname hempty
                exact .inr ⟨origin, entry, rfl, policyNamed?_eq_ok_iff.mp hname,
                  checkEmpty_eq_ok_iff.mp hempty⟩
              · rintro (htext | ⟨_, _, htable, hname, hempty⟩)
                · cases htext
                · cases htable
                  have hnamed := policyNamed?_eq_ok_iff.mpr hname
                  have hchecked := checkEmpty_eq_ok_iff.mpr hempty
                  simp [policy?, hnamed, hchecked, located]
                  rfl
  | _ => simp [policy?, Item.NamesPolicy]

theorem ofName?_eq_some_iff {text : String} {setting : Setting} :
    Setting.ofName? text = some setting ↔ text = setting.name := by
  constructor
  · intro hfound
    have hname : setting.name = text := by simpa using List.find?_some hfound
    exact hname.symm
  · rintro rfl
    exact Setting.ofName?_name setting

theorem ne_of_ofName?_eq_none {text : String} (hunknown : Setting.ofName? text = none)
    (setting : Setting) : text ≠ setting.name := by
  rintro rfl
  simp [Setting.ofName?_name] at hunknown

/-- What is no setting says everything. -/
theorem Entry.tells_of_unknown {entry : Entry Item}
    (hunknown : Setting.ofName? entry.key.text = none) (config : Config) : entry.Tells config :=
  ⟨fun hkey => absurd hkey (ne_of_ofName?_eq_none hunknown .startTemporary),
    fun hkey => absurd hkey (ne_of_ofName?_eq_none hunknown .defaultPolicy),
    fun hkey => absurd hkey (ne_of_ofName?_eq_none hunknown .queueCapacity)⟩

/-! ## What a table says -/

/-- Where no key is there twice, one value serves for all entries of a name. -/
theorem exists_value {α : Type} {table : Table} (hdistinct : table.Distinct) {name : String}
    {reads : Item → α → Prop} (default : α)
    (hreads : ∀ entry ∈ table, entry.key.text = name → ∃ value, reads entry.item value) :
    ∃ value, (∀ entry ∈ table, entry.key.text = name → reads entry.item value) ∧
      (name ∉ table.names → value = default) := by
  by_cases hname : name ∈ table.names
  · obtain ⟨entry, hentry, hkey⟩ := List.mem_map.mp hname
    obtain ⟨value, hvalue⟩ := hreads entry hentry hkey
    refine ⟨value, fun other hother hsame => ?_, fun habsent => absurd hname habsent⟩
    obtain rfl : other = entry :=
      List.inj_on_of_nodup_map hdistinct hother hentry (hsame.trans hkey.symm)
    exact hvalue
  · exact ⟨default, fun entry hentry hkey => absurd (List.mem_map.mpr ⟨entry, hentry, hkey⟩) hname,
      fun _ => rfl⟩

theorem exists_describes {table : Table} (hrange : table.InRange) (hdistinct : table.Distinct)
    (hfits : ∀ entry ∈ table, entry.Fits) : ∃ config, Describes table config := by
  obtain ⟨start, hstart, hnoStart⟩ :=
    @exists_value _ _ hdistinct _ (fun item value => item = .boolean value) false
      fun entry hentry => (hfits entry hentry).startTemporary
  obtain ⟨policy, hpolicy, hnoPolicy⟩ :=
    @exists_value _ _ hdistinct _ Item.NamesPolicy .overwrite
      fun entry hentry => (hfits entry hentry).defaultPolicy
  have hcapacities : ∀ entry ∈ table, entry.key.text = "client_queue_capacity" →
      ∃ capacity : UInt64, entry.item = .integer capacity.toNat := by
    intro entry hentry hkey
    obtain ⟨capacity, hitem⟩ := (hfits entry hentry).queueCapacity hkey
    obtain ⟨-, hbelow⟩ := hrange entry hentry capacity hitem
    refine ⟨UInt64.ofNat capacity, ?_⟩
    rw [hitem, UInt64.toNat_ofNat', Nat.mod_eq_of_lt (by omega)]
  obtain ⟨capacity, hcapacity, hnoCapacity⟩ :=
    @exists_value _ _ hdistinct _ (fun item value => item = .integer (UInt64.toNat value)) 64
      hcapacities
  exact ⟨⟨start, policy, capacity⟩,
    fun entry hentry => ⟨hstart entry hentry, hpolicy entry hentry, hcapacity entry hentry⟩,
    hnoStart, hnoPolicy, hnoCapacity⟩

theorem Table.inRange_singleton {entry : Entry Item} (hrange : entry.item.InRange) :
    Table.InRange [entry] := by
  simpa [InRange] using hrange

theorem Entry.Fits.exists_describes {entry : Entry Item} (h : entry.Fits)
    (hrange : entry.item.InRange) : ∃ config, Describes [entry] config :=
  Toml.exists_describes (Table.inRange_singleton hrange) (List.nodup_singleton _) (by simpa using h)

/-! ## Entry by entry -/

/-- A draft after a table that says nothing but what a configuration says. -/
def after (draft : Draft) (config : Config) (table : Table) : Draft where
  startTemporary :=
    if "start_in_temp_mode" ∈ table.names then some config.startTemporary
    else draft.startTemporary
  defaultPolicy :=
    if "default_policy" ∈ table.names then some config.defaultPolicy else draft.defaultPolicy
  queueCapacity :=
    if "client_queue_capacity" ∈ table.names then some config.queueCapacity
    else draft.queueCapacity

theorem after_nil (draft : Draft) (config : Config) : after draft config [] = draft := by
  simp [after, Table.names]

theorem after_cons (draft : Draft) (config : Config) (entry : Entry Item) (rest : Table) :
    after (after draft config [entry]) config rest = after draft config (entry :: rest) := by
  have hmerge : ∀ {α : Type} (name : String) (value : α) (old : Option α),
      (if name ∈ rest.names then some value
        else if name ∈ Table.names [entry] then some value else old) =
        if name ∈ Table.names (entry :: rest) then some value else old := by
    intro α name value old
    by_cases hrest : name ∈ rest.names <;> by_cases hfirst : name = entry.key.text <;>
      simp_all [Table.names]
  simp only [after, hmerge]

theorem addEntry_of_tells {entry : Entry Item} (hrange : entry.item.InRange) {config : Config}
    (htells : entry.Tells config) (draft : Draft) :
    addEntry draft entry = .ok (after draft config [entry]) := by
  cases hsetting : Setting.ofName? entry.key.text with
  | none =>
      have hstart := ne_of_ofName?_eq_none hsetting .startTemporary
      have hpolicy := ne_of_ofName?_eq_none hsetting .defaultPolicy
      have hcapacity := ne_of_ofName?_eq_none hsetting .queueCapacity
      simp only [Setting.name] at hstart hpolicy hcapacity
      simp [addEntry, hsetting, after, Table.names, hstart.symm, hpolicy.symm, hcapacity.symm]
  | some setting =>
      have hkey := ofName?_eq_some_iff.mp hsetting
      cases setting with
      | startTemporary =>
          have hread := flag?_eq_ok_iff.mpr (htells.startTemporary hkey)
          simp only [addEntry, hsetting, located_eq_ok_iff.mpr hread]
          simp [after, Table.names, hkey, Setting.name]
      | defaultPolicy =>
          have hread := htells.defaultPolicy hkey
          simp only [addEntry, hsetting, policy?_eq_ok_iff.mpr hread]
          simp [after, Table.names, hkey, Setting.name]
      | queueCapacity =>
          have hread := (capacity?_eq_ok_iff hrange).mpr (htells.queueCapacity hkey)
          simp only [addEntry, hsetting, located_eq_ok_iff.mpr hread]
          simp [after, Table.names, hkey, Setting.name]

theorem fits_of_addEntry {draft next : Draft} {entry : Entry Item} (hrange : entry.item.InRange)
    (hadd : addEntry draft entry = .ok next) : entry.Fits := by
  refine ⟨fun hkey => ?_, fun hkey => ?_, fun hkey => ?_⟩
  · have hsetting := (@ofName?_eq_some_iff _ .startTemporary).mpr hkey
    simp only [addEntry, hsetting] at hadd
    obtain ⟨value, hvalue, -⟩ := exists_of_bind_eq_ok hadd
    exact ⟨value, flag?_eq_ok_iff.mp (located_eq_ok_iff.mp hvalue)⟩
  · have hsetting := (@ofName?_eq_some_iff _ .defaultPolicy).mpr hkey
    simp only [addEntry, hsetting] at hadd
    obtain ⟨policy, hpolicy, -⟩ := exists_of_bind_eq_ok hadd
    exact ⟨policy, policy?_eq_ok_iff.mp hpolicy⟩
  · have hsetting := (@ofName?_eq_some_iff _ .queueCapacity).mpr hkey
    simp only [addEntry, hsetting] at hadd
    obtain ⟨capacity, hcapacity, -⟩ := exists_of_bind_eq_ok hadd
    exact ⟨capacity.toNat, (capacity?_eq_ok_iff hrange).mp (located_eq_ok_iff.mp hcapacity)⟩

/-- What an entry is reported for does not hang on the entries before it. -/
theorem addEntry_eq_error_of (draft : Draft) {other : Draft} {entry : Entry Item}
    {finding : Finding} (hadd : addEntry other entry = .error finding) :
    addEntry draft entry = .error finding := by
  have hbind : ∀ {α : Type} {read : Except Finding α} {make make' : α → Draft},
      (do let value ← read; return make value) = Except.error finding →
        (do let value ← read; return make' value) = Except.error finding := by
    intro α read make make' hread
    cases read with
    | error reported => exact hread
    | ok value => cases hread
  unfold addEntry at hadd ⊢
  split at hadd
  · cases hadd
  · exact hbind hadd
  · exact hbind hadd
  · exact hbind hadd

theorem foldlM_addEntry_of_tells {table : Table} (hrange : table.InRange) {config : Config}
    (htells : ∀ entry ∈ table, entry.Tells config) (draft : Draft) :
    table.foldlM addEntry draft = .ok (after draft config table) := by
  induction table generalizing draft with
  | nil =>
      rw [after_nil]
      rfl
  | cons entry rest ih =>
      obtain ⟨hfirst, hrest⟩ := List.forall_mem_cons.mp htells
      obtain ⟨hentry, hothers⟩ := List.forall_mem_cons.mp hrange
      have hread := ih hothers hrest (after draft config [entry])
      rw [after_cons] at hread
      rw [List.foldlM_cons, addEntry_of_tells hentry hfirst]
      exact hread

theorem fits_of_foldlM_addEntry {table : Table} (hrange : table.InRange) {draft last : Draft}
    (hread : table.foldlM addEntry draft = .ok last) : ∀ entry ∈ table, entry.Fits := by
  induction table generalizing draft with
  | nil => simp
  | cons entry rest ih =>
      obtain ⟨hentry, hothers⟩ := List.forall_mem_cons.mp hrange
      rw [List.foldlM_cons] at hread
      obtain ⟨next, hadd, hread⟩ := exists_of_bind_eq_ok hread
      exact List.forall_mem_cons.mpr ⟨fits_of_addEntry hentry hadd, ih hothers hread⟩

theorem foldlM_addEntry_of_misfit {before rest : Table} {entry : Entry Item} {finding : Finding}
    (hrange : before.InRange) (hbefore : ∀ earlier ∈ before, earlier.Fits)
    (hmisfit : addEntry {} entry = .error finding) (draft : Draft) :
    (before ++ entry :: rest).foldlM addEntry draft = .error finding := by
  induction before generalizing draft with
  | nil =>
      rw [List.nil_append, List.foldlM_cons, addEntry_eq_error_of draft hmisfit]
      rfl
  | cons first before ih =>
      obtain ⟨hfirst, hothers⟩ := List.forall_mem_cons.mp hrange
      obtain ⟨hfits, hearlier⟩ := List.forall_mem_cons.mp hbefore
      obtain ⟨config, hdescribes⟩ := hfits.exists_describes hfirst
      rw [List.cons_append, List.foldlM_cons,
        addEntry_of_tells hfirst (hdescribes.entries first (by simp))]
      exact ih hothers hearlier _

theorem exists_misfit_of_foldlM_addEntry {table : Table} (hrange : table.InRange) {draft : Draft}
    {finding : Finding} (hread : table.foldlM addEntry draft = .error finding) :
    ∃ before entry rest, table = before ++ entry :: rest ∧
      (∀ earlier ∈ before, earlier.Fits) ∧ addEntry {} entry = .error finding := by
  induction table generalizing draft with
  | nil => cases hread
  | cons entry rest ih =>
      obtain ⟨hentry, hothers⟩ := List.forall_mem_cons.mp hrange
      rw [List.foldlM_cons] at hread
      cases hadd : addEntry draft entry with
      | error reported =>
          rw [hadd] at hread
          obtain rfl : reported = finding := Except.error.inj hread
          exact ⟨[], entry, rest, rfl, by simp, addEntry_eq_error_of {} hadd⟩
      | ok next =>
          rw [hadd] at hread
          obtain ⟨before, misfit, later, rfl, hbefore, hmisfit⟩ := ih hothers hread
          exact ⟨entry :: before, misfit, later, rfl,
            List.forall_mem_cons.mpr ⟨fits_of_addEntry hentry hadd, hbefore⟩, hmisfit⟩

theorem configOf_of_describes {table : Table} (hrange : table.InRange) {config : Config}
    (hdescribes : Describes table config) : configOf table = .ok config := by
  have hcomplete : (after {} config table).complete = config := by
    have hstart := hdescribes.startTemporary
    have hpolicy := hdescribes.defaultPolicy
    have hcapacity := hdescribes.queueCapacity
    obtain ⟨start, policy, capacity⟩ := config
    simp only [after, Draft.complete, Config.mk.injEq]
    refine ⟨?_, ?_, ?_⟩
    · split
      · rfl
      · rename_i habsent
        exact (hstart habsent).symm
    · split
      · rfl
      · rename_i habsent
        exact (hpolicy habsent).symm
    · split
      · rfl
      · rename_i habsent
        exact (hcapacity habsent).symm
  rw [configOf, foldlM_addEntry_of_tells hrange hdescribes.entries, Except.map, hcomplete]

theorem configOf_eq_error_iff {table : Table} (hrange : table.InRange) {finding : Finding} :
    configOf table = .error finding ↔
      ∃ before entry rest, table = before ++ entry :: rest ∧
        (∀ earlier ∈ before, earlier.Fits) ∧ configOf [entry] = .error finding := by
  have hmap : ∀ read : Except Finding Draft,
      read.map Draft.complete = .error finding ↔ read = .error finding := by
    intro read
    cases read <;> simp [Except.map]
  have halone : ∀ entry,
      configOf [entry] = .error finding ↔ addEntry {} entry = .error finding := by
    intro entry
    rw [configOf, hmap, List.foldlM_cons]
    cases addEntry {} entry <;> simp [bind, Except.bind, pure, Except.pure]
  simp only [halone]
  rw [configOf, hmap]
  constructor
  · exact exists_misfit_of_foldlM_addEntry hrange
  · rintro ⟨before, entry, rest, rfl, hbefore, hmisfit⟩
    have hearlier : Table.InRange before :=
      fun earlier hmem => hrange earlier (List.mem_append_left _ hmem)
    exact foldlM_addEntry_of_misfit hearlier hbefore hmisfit {}

theorem fits_of_configOf {table : Table} (hrange : table.InRange) {config : Config}
    (hread : configOf table = .ok config) : ∀ entry ∈ table, entry.Fits := by
  unfold configOf at hread
  cases hdraft : table.foldlM addEntry {} with
  | error finding => simp [hdraft, Except.map] at hread
  | ok draft => exact fits_of_foldlM_addEntry hrange hdraft

theorem not_fits_of_configOf {entry : Entry Item} (hrange : entry.item.InRange)
    {finding : Finding} (halone : configOf [entry] = .error finding) : ¬ entry.Fits := by
  intro hfits
  obtain ⟨config, hdescribes⟩ := hfits.exists_describes hrange
  rw [configOf_of_describes (Table.inRange_singleton hrange) hdescribes] at halone
  cases halone

/-- The default has room, so a queue without room was asked for. -/
theorem Describes.exists_entry_of_capacity {table : Table} {config : Config}
    (h : Describes table config) (hother : config.queueCapacity ≠ 64) :
    ∃ entry ∈ table, entry.key.text = "client_queue_capacity" := by
  by_contra hnone
  refine hother (h.queueCapacity fun hmem => hnone ?_)
  obtain ⟨entry, hentry, hkey⟩ := List.mem_map.mp hmem
  exact ⟨entry, hentry, hkey⟩

theorem configOf_eq_ok_iff {table : Table} (hrange : table.InRange) (hdistinct : table.Distinct)
    {config : Config} : configOf table = .ok config ↔ Describes table config := by
  refine ⟨fun hread => ?_, configOf_of_describes hrange⟩
  have hfits := fits_of_configOf hrange hread
  obtain ⟨other, hother⟩ := exists_describes hrange hdistinct hfits
  rw [configOf_of_describes hrange hother] at hread
  exact Except.ok.inj hread ▸ hother

end Toml
end Keyring
