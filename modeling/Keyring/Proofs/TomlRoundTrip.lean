import Keyring.Config.Toml
import Keyring.Proofs.TomlText

/-!
# Written configurations read back

A configuration is written as three plain lines, so its document parses to a
table that says what the configuration says.  Reading applies the variable and
then the check for room in the queue.

The capacity is what can go wrong on either way: one beyond the integers of a
document is not written, and a written nought is refused when it is read.
-/

namespace Keyring

/-- The flag that the variable holds, if it holds one. -/
def Variable.flag? : Variable → Option Bool
  | .text value => parseFlag value.toList
  | .unset | .undecodable => none

namespace Config

/-- The configuration once the variable has decided the initial mode. -/
def overridden (config : Config) (override : Variable) : Config :=
  { config with startTemporary := override.flag?.getD config.startTemporary }

theorem next_applyVariable (config : Config) (override : Variable) :
    (config.applyVariable override).next = config.overridden override := by
  cases override with
  | text value =>
      cases hflag : parseFlag value.toList <;>
        simp [applyVariable, overridden, Variable.flag?, hflag]
  | _ => rfl

end Config

namespace Toml

variable {config : Config}

theorem integer?_of_le {n : Nat} (hfits : n ≤ maxInteger) : integer? false n = some ↑n := by
  have hbound : n < Nat.pow 2 63 := by
    have hpos : 0 < Nat.pow 2 63 := by decide
    unfold maxInteger at hfits
    omega
  simp [integer?, hbound]

theorem verbatim_policyName (policy : WritePolicy) : Verbatim policy.name.toList := by
  have hall : policy.name.toList.all fun c => isVisible c && c != '"' && c != '\\' := by
    cases policy <;> decide
  simpa [Verbatim, and_assoc] using hall

/-- What stands in the document of a configuration, line by line. -/
def assignments (config : Config) : List Assignment :=
  [⟨Setting.startTemporary.name.toList, (if config.startTemporary then "true" else "false").toList,
      .boolean config.startTemporary⟩,
    ⟨Setting.defaultPolicy.name.toList, '"' :: (config.defaultPolicy.name.toList ++ ['"']),
      .text config.defaultPolicy.name⟩,
    ⟨Setting.queueCapacity.name.toList, Nat.toDigits 10 config.queueCapacity.toNat,
      .integer config.queueCapacity.toNat⟩]

theorem named_setting (setting : Setting) : setting.name.toList ≠ [] := by
  cases setting <;> decide

theorem bare_setting (setting : Setting) : ∀ c ∈ setting.name.toList, isBareKeyChar c := by
  apply List.all_eq_true.mp
  cases setting <;> decide

theorem plain_startTemporary (value : Bool) :
    Assignment.Plain ⟨Setting.startTemporary.name.toList,
      (if value then "true" else "false").toList, .boolean value⟩ where
  named := named_setting _
  bare := bare_setting _
  tight := by cases value <;> simp [isGap]
  reads rest := scanValue_boolean value _ _

theorem plain_defaultPolicy (policy : WritePolicy) :
    Assignment.Plain ⟨Setting.defaultPolicy.name.toList, '"' :: (policy.name.toList ++ ['"']),
      .text policy.name⟩ where
  named := named_setting _
  bare := bare_setting _
  tight := by simp [isGap]
  reads rest := by
    simpa using scanValue_verbatim (verbatim_policyName policy) rest (nestingLimit - 1)

theorem plain_queueCapacity {n : Nat} (hfits : n ≤ maxInteger) :
    Assignment.Plain ⟨Setting.queueCapacity.name.toList, Nat.toDigits 10 n, .integer n⟩ where
  named := named_setting _
  bare := bare_setting _
  tight := by
    intro c hc
    have hdigit := Text.isDigit_of_mem_toDigits n c (List.mem_of_mem_head? hc)
    apply not_isGap_of_isBareKeyChar
    simp [isBareKeyChar, Char.isAlphanum, hdigit]
  reads rest := by
    simp [scanValue_toDigits, integer?_of_le hfits]

theorem parse_assignments (hfits : config.queueCapacity.toNat ≤ maxInteger) :
    parse (document (assignments config)) = some (documentTable (assignments config)) := by
  apply parse_document
  · simp only [assignments, List.forall_mem_cons]
    exact ⟨plain_startTemporary _, plain_defaultPolicy _, plain_queueCapacity hfits, by simp⟩
  · simp only [assignments, List.map_cons, List.map_nil]
    decide

theorem configOf_assignments (config : Config) :
    configOf (documentTable (assignments config)) = .ok config := by
  have hcapacity : ¬ (config.queueCapacity.toNat : Int) < 0 := by omega
  simp [configOf, documentTable, documentLines, assignments, Assignment.line, Line.entry, addEntry,
    Setting.ofName?_name, WritePolicy.ofName?_name, flag?, policy?, policyNamed?, capacity?,
    located, hcapacity]
  rfl

theorem writeConfig_eq (config : Config) :
    writeConfig config =
      if maxInteger < config.queueCapacity.toNat then .error .outOfRange
      else .ok (String.ofList (document (assignments config))) := by
  unfold writeConfig
  congr 2
  apply String.toList_inj.mp
  simp [document, assignments, Assignment.text]

theorem exists_writeConfig_iff (config : Config) :
    (∃ text, writeConfig config = .ok text) ↔ config.queueCapacity.toNat ≤ maxInteger := by
  rw [writeConfig_eq]
  split
  · rename_i hbeyond
    simpa using hbeyond
  · rename_i hfits
    simpa using hfits

theorem eq_of_writeConfig {text : String} (hwritten : writeConfig config = .ok text) :
    config.queueCapacity.toNat ≤ maxInteger ∧
      text = String.ofList (document (assignments config)) := by
  have hfits := (exists_writeConfig_iff config).mp ⟨text, hwritten⟩
  rw [writeConfig_eq, if_neg (Nat.not_lt.mpr hfits)] at hwritten
  exact ⟨hfits, (Except.ok.inj hwritten).symm⟩

end Toml

namespace Config

/-- A written configuration is checked, but otherwise comes back as it was. -/
theorem answer_ofToml_document {config : Config}
    (hfits : config.queueCapacity.toNat ≤ Toml.maxInteger) (override : Variable) :
    (ofToml override (String.ofList (Toml.document (Toml.assignments config)))).answer =
      (config.overridden override).validate.map fun _ => config.overridden override := by
  simp [ofToml, Toml.parse_assignments hfits, Toml.configOf_assignments, next_applyVariable]

/-- A configuration can be written if its capacity is an integer of a document.
It is then read back with the mode that the variable decides, unless it has a
queue without room. -/
theorem written_config_reads_back (config : Config) :
    ((∃ text, Toml.writeConfig config = .ok text) ↔ config.queueCapacity.toNat ≤ 2 ^ 63 - 1) ∧
      ∀ text, Toml.writeConfig config = .ok text → ∀ override : Variable,
        (ofToml override text).answer.mapError ConfigFault.fault =
          if config.queueCapacity = 0 then
            .error (.configuration "client_queue_capacity must be greater than 0")
          else
            .ok { config with startTemporary := override.flag?.getD config.startTemporary } := by
  refine ⟨Toml.exists_writeConfig_iff config, ?_⟩
  intro text hwritten override
  obtain ⟨hfits, rfl⟩ := Toml.eq_of_writeConfig hwritten
  rw [answer_ofToml_document hfits]
  by_cases hroom : config.queueCapacity = 0
  · simp [validate, overridden, hroom, Except.map, Except.mapError, ConfigFault.fault,
      ConfigFault.detail]
  · simp [validate, overridden, hroom, Except.map, Except.mapError]

/-- A flag in capitals and between blanks overrides the written mode. -/
theorem written_config_reads_back_overridden :
    let config : Config :=
      { startTemporary := true, defaultPolicy := .insertIfAbsent, queueCapacity := 90 }
    let text := "start_in_temp_mode = true\ndefault_policy = \"insert_if_absent\"\n" ++
      "client_queue_capacity = 90\n"
    Toml.writeConfig config = .ok text ∧
      (ofToml (.text " FALSE\t") text).answer.mapError ConfigFault.fault =
        .ok { config with startTemporary := false } := by
  intro config text
  have hwritten : Toml.writeConfig config = .ok text := by decide +kernel
  have hflag : (Variable.text " FALSE\t").flag? = some false := by decide +kernel
  have hread := (written_config_reads_back config).2 text hwritten (.text " FALSE\t")
  rw [hflag] at hread
  exact ⟨hwritten, hread⟩

end Config
end Keyring
