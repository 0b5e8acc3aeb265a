import Keyring.Proofs.TomlSettings

/-!
# Which documents are accepted

A document is accepted if its settings fit and leave room in the queue.  Keys that
are no settings, and the order of the others, do not matter to what it gives.
Whether a document is accepted, and what is wrong with it, does not hang on the
environment, which only decides the initial mode of what is accepted.
-/

namespace Keyring
namespace Toml

/-! ## Other keys and another order -/

/-- Two entries under one key that say the same of every configuration. -/
def Entry.Alike (entry other : Entry Item) : Prop :=
  entry.key.text = other.key.text ∧ ∀ config, entry.Tells config ↔ other.Tells config

theorem Entry.Alike.symm {entry other : Entry Item} (h : entry.Alike other) : other.Alike entry :=
  ⟨h.1.symm, fun config => (h.2 config).symm⟩

theorem Entry.alike_of {entry other : Entry Item} (hkey : entry.key.text = other.key.text)
    (hboolean : ∀ value, entry.item = .boolean value ↔ other.item = .boolean value)
    (hpolicy : ∀ policy, entry.item.NamesPolicy policy ↔ other.item.NamesPolicy policy)
    (hinteger : ∀ value, entry.item = .integer value ↔ other.item = .integer value) :
    entry.Alike other := by
  refine ⟨hkey, fun config => ⟨fun h => ⟨?_, ?_, ?_⟩, fun h => ⟨?_, ?_, ?_⟩⟩⟩
  · exact fun hname => (hboolean _).mp (h.startTemporary (hkey.trans hname))
  · exact fun hname => (hpolicy _).mp (h.defaultPolicy (hkey.trans hname))
  · exact fun hname => (hinteger _).mp (h.queueCapacity (hkey.trans hname))
  · exact fun hname => (hboolean _).mpr (h.startTemporary (hkey.symm.trans hname))
  · exact fun hname => (hpolicy _).mpr (h.defaultPolicy (hkey.symm.trans hname))
  · exact fun hname => (hinteger _).mpr (h.queueCapacity (hkey.symm.trans hname))

/-- What one table says of the settings, another says as well. -/
def Table.Within (table others : Table) : Prop :=
  ∀ entry ∈ table, (Setting.ofName? entry.key.text).isSome → ∃ other ∈ others, entry.Alike other

theorem Describes.of_within {table others : Table} (hwithin : table.Within others)
    (hback : others.Within table) {config : Config} (h : Describes table config) :
    Describes others config := by
  have habsent : ∀ setting : Setting, setting.name ∉ others.names → setting.name ∉ table.names := by
    intro setting hnone hmem
    obtain ⟨entry, hentry, hkey⟩ := List.mem_map.mp hmem
    have hknown : (Setting.ofName? entry.key.text).isSome := by
      rw [hkey, Setting.ofName?_name]
      rfl
    obtain ⟨other, hother, hsame, -⟩ := hwithin entry hentry hknown
    exact hnone (List.mem_map.mpr ⟨other, hother, hsame.symm.trans hkey⟩)
  refine ⟨fun other hother => ?_, fun hnone => ?_, fun hnone => ?_, fun hnone => ?_⟩
  · cases hsetting : Setting.ofName? other.key.text with
    | none => exact Entry.tells_of_unknown hsetting config
    | some setting =>
        obtain ⟨entry, hentry, -, halike⟩ := hback other hother (by simp [hsetting])
        exact (halike config).mpr (h.entries entry hentry)
  · exact h.startTemporary (habsent .startTemporary hnone)
  · exact h.defaultPolicy (habsent .defaultPolicy hnone)
  · exact h.queueCapacity (habsent .queueCapacity hnone)

/-- Why a document is refused, whatever the environment. -/
inductive Refuses (text : String) : ConfigFault → Prop
  | notWellFormed (hparse : parse text.toList = none) : Refuses text .notWellFormed
  /-- The first entry with no value for its setting is at fault, as it is alone. -/
  | unfit {before rest : Table} {entry : Entry Item} {finding : Finding}
      (hparse : parse text.toList = some (before ++ entry :: rest))
      (hbefore : ∀ earlier ∈ before, earlier.Fits) (hmisfit : ¬ entry.Fits)
      (halone : configOf [entry] = .error finding) :
      Refuses text (.unfit (.ofSpan text.toList finding.mark) finding.complaint)
  | noCapacity {table : Table} {entry : Entry Item} (hparse : parse text.toList = some table)
      (hfits : ∀ entry ∈ table, entry.Fits) (hentry : entry ∈ table)
      (hkey : entry.key.text = "client_queue_capacity") (hzero : entry.item = .integer 0) :
      Refuses text .noCapacity

end Toml

namespace Config

open Toml

variable {override : Variable} {text : String}

/-- What becomes of a document whose settings have been read. -/
theorem answer_ofToml_of_read {table : Table} (hparse : parse text.toList = some table)
    {read : Config} (hread : configOf table = .ok read) :
    (ofToml override text).answer =
      if read.queueCapacity = 0 then .error .noCapacity else .ok (read.overridden override) := by
  simp only [ofToml, hparse, hread, next_applyVariable]
  by_cases hroom : read.queueCapacity = 0
  · simp [validate, overridden, hroom, Except.map]
  · simp [validate, overridden, hroom, Except.map]

theorem answer_ofToml_eq_ok_iff {config : Config} :
    (ofToml override text).answer = .ok config ↔
      ∃ table read, parse text.toList = some table ∧ Describes table read ∧
        1 ≤ read.queueCapacity.toNat ∧ config = read.overridden override := by
  constructor
  · intro haccepted
    cases hparse : parse text.toList with
    | none => simp [ofToml, hparse] at haccepted
    | some table =>
        cases hread : configOf table with
        | error finding => simp [ofToml, hparse, hread] at haccepted
        | ok read =>
            rw [answer_ofToml_of_read hparse hread] at haccepted
            split at haccepted
            · cases haccepted
            · rename_i hroom
              have hdescribes :=
                (configOf_eq_ok_iff (parse_inRange hparse) (parse_distinct hparse)).mp hread
              have hpos : read.queueCapacity.toNat ≠ 0 := fun h => hroom (UInt64.toNat_inj.mp h)
              exact ⟨table, read, rfl, hdescribes, by omega, (Except.ok.inj haccepted).symm⟩
  · rintro ⟨table, read, hparse, hdescribes, hpos, rfl⟩
    have hread := configOf_of_describes (parse_inRange hparse) hdescribes
    have hroom : read.queueCapacity ≠ 0 := by
      intro hzero
      simp [hzero] at hpos
    rw [answer_ofToml_of_read hparse hread, if_neg hroom]

theorem answer_ofToml_eq_error_iff {fault : ConfigFault} :
    (ofToml override text).answer = .error fault ↔ Refuses text fault := by
  constructor
  · intro hrefused
    cases hparse : parse text.toList with
    | none =>
        simp only [ofToml, hparse] at hrefused
        obtain rfl := Except.error.inj hrefused
        exact .notWellFormed hparse
    | some table =>
        have hrange := parse_inRange hparse
        cases hread : configOf table with
        | error finding =>
            simp only [ofToml, hparse, hread] at hrefused
            obtain rfl := Except.error.inj hrefused
            obtain ⟨before, entry, rest, rfl, hbefore, halone⟩ :=
              (configOf_eq_error_iff hrange).mp hread
            have hmisfit := not_fits_of_configOf (hrange entry (by simp)) halone
            exact .unfit hparse hbefore hmisfit halone
        | ok read =>
            rw [answer_ofToml_of_read hparse hread] at hrefused
            split at hrefused
            · rename_i hroom
              obtain rfl := Except.error.inj hrefused
              have hdescribes := (configOf_eq_ok_iff hrange (parse_distinct hparse)).mp hread
              obtain ⟨entry, hentry, hkey⟩ := hdescribes.exists_entry_of_capacity (by simp [hroom])
              refine .noCapacity hparse (fits_of_configOf hrange hread) hentry hkey ?_
              simpa [hroom] using (hdescribes.entries entry hentry).queueCapacity hkey
            · cases hrefused
  · intro hrefuses
    cases hrefuses with
    | notWellFormed hparse => simp [ofToml, hparse]
    | unfit hparse hbefore hmisfit halone =>
        have hread := (configOf_eq_error_iff (parse_inRange hparse)).mpr
          ⟨_, _, _, rfl, hbefore, halone⟩
        simp [ofToml, hparse, hread]
    | @noCapacity table entry hparse hfits hentry hkey hzero =>
        have hrange := parse_inRange hparse
        obtain ⟨read, hdescribes⟩ := exists_describes hrange (parse_distinct hparse) hfits
        have hread := configOf_of_describes hrange hdescribes
        have hroom : read.queueCapacity = 0 := by
          have hitem := (hdescribes.entries entry hentry).queueCapacity hkey
          rw [hzero] at hitem
          have hnought : read.queueCapacity.toNat = 0 := by
            have := Item.integer.inj hitem
            omega
          exact UInt64.toNat_inj.mp hnought
        rw [answer_ofToml_of_read hparse hread, if_pos hroom]

theorem exists_answer_iff :
    (∃ config, (ofToml override text).answer = .ok config) ↔
      ∃ table, parse text.toList = some table ∧ ∀ entry ∈ table,
        (entry.key.text = "start_in_temp_mode" → ∃ value, entry.item = .boolean value) ∧
        (entry.key.text = "default_policy" → ∃ policy, entry.item.NamesPolicy policy) ∧
        (entry.key.text = "client_queue_capacity" →
          ∃ capacity : Nat, 1 ≤ capacity ∧ entry.item = .integer capacity) := by
  constructor
  · rintro ⟨config, haccepted⟩
    obtain ⟨table, read, hparse, hdescribes, hpos, -⟩ := answer_ofToml_eq_ok_iff.mp haccepted
    refine ⟨table, hparse, fun entry hentry => ?_⟩
    obtain ⟨hstart, hpolicy, hcapacity⟩ := hdescribes.entries entry hentry
    exact ⟨fun hkey => ⟨_, hstart hkey⟩, fun hkey => ⟨_, hpolicy hkey⟩,
      fun hkey => ⟨_, hpos, hcapacity hkey⟩⟩
  · rintro ⟨table, hparse, hentries⟩
    have hfits : ∀ entry ∈ table, entry.Fits := by
      intro entry hentry
      obtain ⟨hstart, hpolicy, hcapacity⟩ := hentries entry hentry
      refine ⟨hstart, hpolicy, fun hkey => ?_⟩
      obtain ⟨capacity, -, hitem⟩ := hcapacity hkey
      exact ⟨capacity, hitem⟩
    obtain ⟨read, hdescribes⟩ :=
      exists_describes (parse_inRange hparse) (parse_distinct hparse) hfits
    refine ⟨_, answer_ofToml_eq_ok_iff.mpr ⟨table, read, hparse, hdescribes, ?_, rfl⟩⟩
    by_contra hless
    have hnought : read.queueCapacity.toNat = 0 := by omega
    -- No room is not the default, so an entry would have to say so.
    obtain ⟨entry, hentry, hkey⟩ := hdescribes.exists_entry_of_capacity
      (fun hdefault => by simp [hdefault] at hnought)
    obtain ⟨capacity, hpos, hitem⟩ := (hentries entry hentry).2.2 hkey
    have hsame := Item.integer.inj
      (hitem.symm.trans ((hdescribes.entries entry hentry).queueCapacity hkey))
    omega

theorem answer_ofToml_of_within {other : String} {table others : Table}
    (hparse : parse text.toList = some table) (hother : parse other.toList = some others)
    (hwithin : table.Within others) (hback : others.Within table) {config : Config}
    (haccepted : (ofToml override text).answer = .ok config) :
    (ofToml override other).answer = .ok config := by
  obtain ⟨found, read, hfound, hdescribes, hrest⟩ := answer_ofToml_eq_ok_iff.mp haccepted
  obtain rfl : table = found := Option.some.inj (hparse.symm.trans hfound)
  exact answer_ofToml_eq_ok_iff.mpr
    ⟨others, read, hother, hdescribes.of_within hwithin hback, hrest⟩

/-- A document is accepted if its settings fit, and gives what they say, with the
mode that the variable decides.  What it is refused for does not hang on the
variable, and other keys and another order change nothing. -/
theorem settings_decide_answer (override : Variable) (text : String) :
    (∀ config, (ofToml override text).answer = .ok config ↔
      ∃ table read, parse text.toList = some table ∧ Describes table read ∧
        1 ≤ read.queueCapacity.toNat ∧
          config = { read with startTemporary := override.flag?.getD read.startTemporary }) ∧
    ((∃ config, (ofToml override text).answer = .ok config) ↔
      ∃ table, parse text.toList = some table ∧ ∀ entry ∈ table,
        (entry.key.text = "start_in_temp_mode" → ∃ value, entry.item = .boolean value) ∧
        (entry.key.text = "default_policy" → ∃ policy, entry.item.NamesPolicy policy) ∧
        (entry.key.text = "client_queue_capacity" →
          ∃ capacity : Nat, 1 ≤ capacity ∧ entry.item = .integer capacity)) ∧
    (∀ fault, (ofToml override text).answer = .error fault ↔ Refuses text fault) ∧
    ∀ (other : String) (table others : Table),
      parse text.toList = some table → parse other.toList = some others →
        table.Within others → others.Within table →
          ∀ config, (ofToml override other).answer = .ok config ↔
            (ofToml override text).answer = .ok config := by
  refine ⟨fun config => answer_ofToml_eq_ok_iff, exists_answer_iff,
    fun fault => answer_ofToml_eq_error_iff, ?_⟩
  intro other table others hparse hother hwithin hback config
  exact ⟨answer_ofToml_of_within hother hparse hback hwithin,
    answer_ofToml_of_within hparse hother hwithin hback⟩

/-- A policy in braces and one under a header, with other keys around it. -/
theorem reordered_settings_read_alike :
    let config : Config := ⟨true, .insertIfAbsent, 3⟩
    (ofToml (.text " TRUE ")
        "default_policy = \x7b insert_if_absent = [] \x7d\nclient_queue_capacity = 3\n").answer =
      .ok config ∧
    (ofToml (.text " TRUE ") ("colour = \"red\"\nclient_queue_capacity = 3\n" ++
        "[default_policy]\ninsert_if_absent = []\n[start]\nat = 1\n")).answer = .ok config := by
  intro config
  have hread : (ofToml (.text " TRUE ")
      "default_policy = \x7b insert_if_absent = [] \x7d\nclient_queue_capacity = 3\n").answer =
        .ok config := by
    decide +kernel
  -- The policy means the same however its table came about.
  have hpolicy : ∀ (one two first second : Span) (here there place place' : Option Span),
      Entry.Alike
        ⟨⟨"default_policy", one⟩, place,
          .table .inline [⟨⟨"insert_if_absent", first⟩, here, .array []⟩]⟩
        ⟨⟨"default_policy", two⟩, place',
          .table .header [⟨⟨"insert_if_absent", second⟩, there, .array []⟩]⟩ := by
    intros
    exact Entry.alike_of rfl (by simp) (by simp [Item.NamesPolicy, Item.IsHollow]) (by simp)
  have hcapacity : ∀ (one two : Span) (here there : Option Span),
      Entry.Alike ⟨⟨"client_queue_capacity", one⟩, here, .integer 3⟩
        ⟨⟨"client_queue_capacity", two⟩, there, .integer 3⟩ := by
    intros
    exact Entry.alike_of rfl (fun _ => .rfl) (fun _ => .rfl) (fun _ => .rfl)
  refine ⟨hread, ((settings_decide_answer _ _).2.2.2 _
    [⟨⟨"default_policy", _⟩, _, .table .inline [⟨⟨"insert_if_absent", _⟩, _, .array []⟩]⟩,
      ⟨⟨"client_queue_capacity", _⟩, _, .integer 3⟩]
    [⟨⟨"colour", _⟩, _, .text "red"⟩, ⟨⟨"client_queue_capacity", _⟩, _, .integer 3⟩,
      ⟨⟨"default_policy", _⟩, _, .table .header [⟨⟨"insert_if_absent", _⟩, _, .array []⟩]⟩,
      ⟨⟨"start", _⟩, _, .table .header [⟨⟨"at", _⟩, _, .integer 1⟩]⟩] rfl rfl ?_ ?_ config).mpr
    hread⟩
  · refine List.forall_mem_cons.mpr ⟨fun _ => ⟨_, .tail _ (.tail _ (.head _)), hpolicy ..⟩, ?_⟩
    refine List.forall_mem_cons.mpr ⟨fun _ => ⟨_, .tail _ (.head _), hcapacity ..⟩, ?_⟩
    exact List.forall_mem_nil _
  · refine List.forall_mem_cons.mpr ⟨fun hknown => absurd hknown (by decide), ?_⟩
    refine List.forall_mem_cons.mpr ⟨fun _ => ⟨_, .tail _ (.head _), hcapacity ..⟩, ?_⟩
    refine List.forall_mem_cons.mpr ⟨fun _ => ⟨_, .head _, (hpolicy ..).symm⟩, ?_⟩
    exact List.forall_mem_cons.mpr ⟨fun hknown => absurd hknown (by decide), List.forall_mem_nil _⟩

end Config
end Keyring
