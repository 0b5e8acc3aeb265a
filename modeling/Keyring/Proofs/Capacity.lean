import Keyring.Config.File
import Keyring.Proofs.TomlIntegers
import Keyring.Proofs.TomlRoundTrip
import Keyring.Queue.Exchange

/-!
# Accepted capacities and the room of a queue

The capacity of a configuration is checked at its lower end only: what is
accepted is exactly what a document can hold, from one up.  A queue has less
room than that, so the configurations that drive a client are a proper part of
those that are accepted.
-/

namespace Keyring

namespace Toml

theorem exists_of_bind_eq_ok {ε α β : Type} {x : Except ε α} {f : α → Except ε β} {b : β}
    (hbind : x >>= f = .ok b) : ∃ a, x = .ok a ∧ f a = .ok b := by
  cases x with
  | error e => cases hbind
  | ok a => exact ⟨a, rfl, hbind⟩

theorem queueCapacity_addEntry {draft next : Draft} {entry : Entry Item}
    (hadd : addEntry draft entry = .ok next) :
    next.queueCapacity = draft.queueCapacity ∨
      ∃ capacity, capacity? entry.item = .ok capacity ∧ next.queueCapacity = some capacity := by
  unfold addEntry at hadd
  split at hadd
  · cases hadd
    exact .inl rfl
  · obtain ⟨value, _, hnext⟩ := exists_of_bind_eq_ok hadd
    cases hnext
    exact .inl rfl
  · obtain ⟨value, _, hnext⟩ := exists_of_bind_eq_ok hadd
    cases hnext
    exact .inl rfl
  -- Only the entry of the capacity itself touches it.
  · obtain ⟨value, hvalue, hnext⟩ := exists_of_bind_eq_ok hadd
    cases hnext
    refine .inr ⟨value, ?_, rfl⟩
    cases hcapacity : capacity? entry.item with
    | error complaint => simp [hcapacity, located] at hvalue
    | ok capacity => simpa [hcapacity, located] using hvalue

theorem toNat_lt_of_capacity? {item : Item} {capacity : UInt64} (hrange : item.InRange)
    (hread : capacity? item = .ok capacity) : capacity.toNat < 2 ^ 63 := by
  cases item with
  | integer value =>
      simp only [capacity?] at hread
      split at hread
      · cases hread
      · obtain rfl := Except.ok.inj hread
        obtain ⟨_, hbelow⟩ := hrange value rfl
        have hsmall : value.toNat < 2 ^ 63 := by omega
        rw [UInt64.toNat_ofNat', Nat.mod_eq_of_lt (by omega)]
        exact hsmall
  | _ => cases hread

def CapacityInRange (draft : Draft) : Prop :=
  ∀ capacity, draft.queueCapacity = some capacity → capacity.toNat < 2 ^ 63

theorem foldlM_addEntry_inRange {table : Table} (hrange : table.InRange) {draft next : Draft}
    (hdraft : CapacityInRange draft) (hread : table.foldlM addEntry draft = .ok next) :
    CapacityInRange next := by
  induction table generalizing draft with
  | nil =>
      cases hread
      exact hdraft
  | cons entry table ih =>
      obtain ⟨hentry, hrest⟩ := List.forall_mem_cons.mp hrange
      rw [List.foldlM_cons] at hread
      obtain ⟨added, hadd, hread⟩ := exists_of_bind_eq_ok hread
      refine ih hrest ?_ hread
      intro capacity hcapacity
      rcases queueCapacity_addEntry hadd with hsame | ⟨value, hvalue, hset⟩
      · exact hdraft capacity (hsame.symm.trans hcapacity)
      · obtain rfl := Option.some.inj (hset.symm.trans hcapacity)
        exact toNat_lt_of_capacity? hentry hvalue

theorem toNat_lt_of_configOf {table : Table} (hrange : table.InRange) {config : Config}
    (hread : configOf table = .ok config) : config.queueCapacity.toNat < 2 ^ 63 := by
  unfold configOf at hread
  cases hdraft : table.foldlM addEntry {} with
  | error finding => simp [hdraft, Except.map] at hread
  | ok draft =>
      rw [hdraft] at hread
      obtain rfl := Except.ok.inj hread
      have hfinal := foldlM_addEntry_inRange hrange (by rintro _ ⟨⟩) hdraft
      cases hcapacity : draft.queueCapacity with
      | none => simp [Draft.complete, hcapacity, Config.defaultQueueCapacity]
      | some capacity => simpa [Draft.complete, hcapacity] using hfinal capacity hcapacity

end Toml

namespace Config

theorem validate_eq_ok_iff (config : Config) :
    config.validate = .ok () ↔ 0 < config.queueCapacity.toNat := by
  unfold validate
  by_cases hroom : config.queueCapacity = 0
  · simp [hroom]
  · have hpos : config.queueCapacity.toNat ≠ 0 := fun h => hroom (UInt64.toNat_inj.mp h)
    simp [hroom, Nat.pos_of_ne_zero hpos]

theorem capacity_of_ofToml {override : Variable} {text : String} {config : Config}
    (haccepted : (ofToml override text).answer = .ok config) :
    0 < config.queueCapacity.toNat ∧ config.queueCapacity.toNat < 2 ^ 63 := by
  unfold ofToml at haccepted
  split at haccepted
  · cases haccepted
  · rename_i table htable
    split at haccepted
    · cases haccepted
    · rename_i read hread
      simp only [next_applyVariable] at haccepted
      cases hvalid : (read.overridden override).validate with
      | error reason => simp [hvalid, Except.map] at haccepted
      | ok _ =>
          rw [hvalid] at haccepted
          have heq : read.overridden override = config := Except.ok.inj haccepted
          subst heq
          have hbelow := Toml.toNat_lt_of_configOf (Toml.parse_inRange htable) hread
          exact ⟨(validate_eq_ok_iff _).mp hvalid, hbelow⟩

/-- What is loaded was read from some text, or is the default with the mode that
the variable decides. -/
theorem answer_loadOrDefault (files : FileSystem) (override : Variable) (path : String) :
    (∃ text, (ofToml override text).answer = .ok (loadOrDefault files override path).answer) ∨
      (loadOrDefault files override path).answer = overridden {} override := by
  unfold loadOrDefault
  split
  · cases hloaded : (loadFile files override path).answer with
    | error reason =>
        right
        simp [hloaded, fallback, next_applyVariable]
    | ok config =>
        left
        unfold loadFile at hloaded
        split at hloaded
        · cases hloaded
        · rename_i text htext
          exact ⟨text, by simp [loadFile, htext, hloaded]⟩
  · right
    simp [fallback, next_applyVariable]

/-- A configuration that some text, or some file, gives in some environment. -/
def Accepted (config : Config) : Prop :=
  (∃ override text, (ofToml override text).answer = .ok config) ∨
    ∃ files override path, (loadOrDefault files override path).answer = config

theorem accepted_iff (config : Config) :
    config.Accepted ↔
      0 < config.queueCapacity.toNat ∧ config.queueCapacity.toNat < 2 ^ 63 := by
  constructor
  · rintro (⟨override, text, hread⟩ | ⟨files, override, path, rfl⟩)
    · exact capacity_of_ofToml hread
    · rcases answer_loadOrDefault files override path with ⟨text, hread⟩ | hdefault
      · exact capacity_of_ofToml hread
      · simp [hdefault, overridden, defaultQueueCapacity]
  · rintro ⟨hpos, hbelow⟩
    have hmax : Toml.maxInteger = 2 ^ 63 - 1 := rfl
    have hfits : config.queueCapacity.toNat ≤ Toml.maxInteger := by omega
    have hread := answer_ofToml_document hfits .unset
    have hvalid := (validate_eq_ok_iff config).mpr hpos
    have hsame : config.overridden .unset = config := rfl
    rw [hsame, hvalid] at hread
    exact .inl ⟨.unset, _, hread⟩

/-- Every capacity that a document can hold is accepted, but for nought, and only
those that a queue can have drive a client. -/
theorem accepted_config_drives_client_iff {σ : Type} (cache : σ) (config : Config) :
    (config.Accepted ↔
        0 < config.queueCapacity.toNat ∧ config.queueCapacity.toNat < 2 ^ 63) ∧
      ((Queue.Exchange.ofConfig cache config).isSome ↔ config.queueCapacity.toNat < 2 ^ 61) := by
  refine ⟨accepted_iff config, ?_⟩
  have hmax : Queue.Exchange.maxCapacity = 2 ^ 61 - 1 := rfl
  rw [Queue.Exchange.ofConfig, Queue.Exchange.spawn, hmax]
  split
  · simp
    omega
  · simp
    omega

/-- The least capacity that is accepted and drives no client. -/
theorem accepted_capacity_without_client :
    let config : Config := { queueCapacity := 2305843009213693952 }
    (ofToml .unset "client_queue_capacity = 2305843009213693952\n").answer = .ok config ∧
      (Queue.Exchange.ofConfig SharedStore.new config).isNone := by
  decide +kernel

end Config
end Keyring
