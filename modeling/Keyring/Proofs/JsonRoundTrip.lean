import Keyring.Proofs.JsonConfig

/-!
# Configurations that are read from JSON

An object gives each setting that it names its value, in any order and among any
other members, and leaves the others at their defaults.  An array of the first
values is read like the object with these settings.  What is written for a
configuration is one of its objects, with no white space.
-/

namespace Keyring
namespace Json

section Written

theorem isPlain_of_all {text : List Char} (hall : text.all fun c => decide (IsPlain c)) :
    ∀ c ∈ text, IsPlain c := by
  simpa using hall

theorem isPlain_settingName (setting : Setting) : ∀ c ∈ setting.name.toList, IsPlain c :=
  isPlain_of_all (by cases setting <;> decide +kernel)

theorem isPlain_policyName (policy : WritePolicy) : ∀ c ∈ policy.name.toList, IsPlain c :=
  isPlain_of_all (by cases policy <;> decide +kernel)

def settingValue (config : Config) : Setting → Value
  | .startTemporary => .boolean config.startTemporary
  | .defaultPolicy => .text (.plain config.defaultPolicy.name.toList (isPlain_policyName _))
  | .queueCapacity => .number (.ofNat config.queueCapacity.toNat)

theorem tells_settingValue (config : Config) (setting : Setting) :
    Tells config setting (settingValue config setting) := by
  cases setting with
  | startTemporary => exact .startTemporary
  | defaultPolicy => exact .defaultPolicy (Literal.spells_plain _ _)
  | queueCapacity => exact .queueCapacity

def settingMember (config : Config) (setting : Setting) : Member where
  name := setting.name
  literal := .plain setting.name.toList (isPlain_settingName setting)
  spells := Literal.spells_plain _ _
  value := settingValue config setting

theorem setting?_settingMember (config : Config) (setting : Setting) :
    (settingMember config setting).setting? = some setting :=
  Setting.ofName?_name setting

theorem agrees_settingMember (config : Config) (setting : Setting) :
    (settingMember config setting).Agrees config :=
  Member.agrees_of_setting (setting?_settingMember config setting)
    (tells_settingValue config setting)

theorem settings_settingMembers (config : Config) (present : List Setting) :
    settings (present.map (settingMember config)) = present := by
  induction present with
  | nil => rfl
  | cons setting present ih =>
      rw [List.map_cons, settings_cons, setting?_settingMember, ih]
      rfl

theorem written_of_gap {value : Value} {text : String} (gap : List Char) (hgap : gap ⊆ blanks)
    (htext : text.toList = value.lexemes.flatMap (fun lexeme => gap ++ lexeme.chars) ++ gap) :
    Written value text := by
  rw [Written, htext]
  exact Spaced.of_gap hgap value.lexemes

theorem written_writeConfig (config : Config) :
    Written (.object ((Setting.all.map (settingMember config)).map Member.raw))
      (writeConfig config) := by
  refine written_of_gap [] (by simp) ?_
  have hflag : (writeFlag config.startTemporary).toList =
      (Lexeme.boolean config.startTemporary).chars := by
    cases config.startTemporary <;> rfl
  simp [writeConfig, writeMember, writeName, hflag, Setting.all, settingMember, Member.raw,
    settingValue, Value.lexemes, memberLexemes, lead, Lexeme.chars, Literal.chars_plain,
    NumberText.chars_ofNat]

end Written

section Parsing

/-- A text of an object with the given members, which gives the settings that are
among them the values they have in a configuration. -/
structure ObjectText (config : Config) (members : List Member) (text : String) : Prop where
  written : Written (.object (members.map Member.raw)) text
  agrees : ∀ member ∈ members, member.Agrees config

variable {config : Config} {text : String}

theorem objectText_writeConfig (config : Config) :
    ObjectText config (Setting.all.map (settingMember config)) (writeConfig config) where
  written := written_writeConfig config
  agrees member hmember := by
    obtain ⟨setting, -, rfl⟩ := List.mem_map.mp hmember
    exact agrees_settingMember config setting

theorem ObjectText.parse {members : List Member} (hobject : ObjectText config members text)
    (hnodup : (settings members).Nodup) :
    parse readConfig text = .ok (config.only (settings members)) := by
  have hread := readMembers_of_agrees hobject.agrees true [] hnodup []
  rw [Config.draft_nil, List.nil_append] at hread
  simp [Json.parse, hobject.written.tokens, readConfig, hread, Except.map, Config.complete_draft]

theorem parse_array_of_tells {present others : List Setting} {values : List Value}
    (hall : present ++ others = Setting.all) (hwritten : Written (.array values) text)
    (htells : List.Forall₂ (Tells config) present values) :
    parse readConfig text = .ok (config.only present) := by
  have hread := readElements_of_tells htells true [] others []
  rw [Config.draft_nil, List.nil_append, hall] at hread
  simp [parse, hwritten.tokens, readConfig, hread, Except.map, Config.complete_draft]

/-- An object is read only if its names can be read and name no setting twice. -/
theorem readable_of_parse {members : List (Literal × Value)}
    (hwritten : Written (.object members) text) (hparse : parse readConfig text = .ok config) :
    Readable {} members := by
  cases hread : readMembers true {} (memberTokens true members ++ [.closeBrace]) with
  | error fault =>
      simp [parse, hwritten.tokens, readConfig, hread, Except.map] at hparse
  | ok taken => exact readMembers_ok hread

theorem parse_repeated {members : List (Literal × Value)} {first second : Literal × Value}
    {setting : Setting} (hwritten : Written (.object members) text)
    (hsublist : [first, second].Sublist members)
    (hfirst : Spells setting.name.toList first.1) (hsecond : Spells setting.name.toList second.1) :
    ∃ fault, parse readConfig text = .error fault := by
  cases hparse : parse readConfig text with
  | error fault => exact ⟨fault, rfl⟩
  | ok config =>
      have htwice : named [first, second] = [setting, setting] := by
        simp [named, settingNamed?, hfirst.text?, hsecond.text?, Setting.ofName?_name]
      have hnodup : (named [first, second]).Nodup :=
        (readable_of_parse hwritten hparse).nodup.sublist (hsublist.filterMap _)
      rw [htwice] at hnodup
      simp at hnodup

end Parsing

/-- What is written for a configuration is read back.  So are the settings that an
object has among any other members, with defaults for those it has not.  An object
that has a setting twice is refused.  An array of the first values is read like the
object with just these settings. -/
theorem json_config_reads_back :
    (∀ config, parse readConfig (writeConfig config) = .ok config) ∧
    (∀ (config : Config) (members : List Member) (text : String), ObjectText config members text →
      (settings members).Nodup →
      parse readConfig text = .ok (config.only (settings members))) ∧
    (∀ (members : List (Literal × Value)) (text : String) (first second : Literal × Value)
      (setting : Setting), Written (.object members) text → [first, second].Sublist members →
      Spells setting.name.toList first.1 → Spells setting.name.toList second.1 →
      ∃ fault, parse readConfig text = .error fault) ∧
    ∀ (config : Config) (count : Nat) (values : List Value) (text : String),
      Written (.array values) text →
      List.Forall₂ (Tells config) (Setting.all.take count) values →
      parse readConfig text = .ok (config.only (Setting.all.take count)) ∧
        ∀ (members : List Member) (objectText : String), ObjectText config members objectText →
          (settings members).Perm (Setting.all.take count) →
          parse readConfig objectText = parse readConfig text := by
  refine ⟨fun config => ?_, fun config members text hobject hnodup => ?_,
    fun members text first second setting hwritten hsublist hfirst hsecond => ?_,
    fun config count values text hwritten htells => ?_⟩
  · have hread := (objectText_writeConfig config).parse
      (by rw [settings_settingMembers]; decide)
    rwa [settings_settingMembers, Config.only_all] at hread
  · exact hobject.parse hnodup
  · exact parse_repeated hwritten hsublist hfirst hsecond
  · have harray := parse_array_of_tells (List.take_append_drop count Setting.all) hwritten htells
    refine ⟨harray, fun members objectText hobject hperm => ?_⟩
    have hall : Setting.all.Nodup := by decide
    have hnodup : (settings members).Nodup :=
      hperm.nodup_iff.mpr (hall.sublist (List.take_sublist count _))
    rw [hobject.parse hnodup, harray, config.only_perm hperm]

def fullConfig : Config where
  startTemporary := true
  defaultPolicy := .insertIfAbsent
  queueCapacity := 18446744073709551615

/-- A number, half of a pair of surrogates and an object that looks like a setting, in an array. -/
def notesMember : Member where
  name := "notes"
  literal := .plain "notes".toList (isPlain_of_all (by decide +kernel))
  spells := Literal.spells_plain _ _
  value := .array [
    .number {
      negative := true
      whole := ⟨['1'], by decide, by simp⟩
      fraction := some ⟨['5'], by decide, by simp⟩
      exponent := some ⟨'e', some '+', ⟨['3'], by decide, by simp⟩, .inl rfl, by simp⟩
      leading := .inl rfl },
    .text [.unit 'd' '8' '0' '0' (List.all_eq_true.mp (by decide))],
    .object [(.plain "default_policy".toList (isPlain_settingName .defaultPolicy), .null)]]

/-- The capacity under a name that begins with an escape. -/
def escapedMember (config : Config) : Member where
  name := "client_queue_capacity"
  literal := .unit '0' '0' '6' '3' (List.all_eq_true.mp (by decide)) ::
    Literal.plain "lient_queue_capacity".toList (isPlain_of_all (by decide +kernel))
  spells := .unit rfl (Literal.spells_plain _ _)
  value := settingValue config .queueCapacity

/-- An object in another order and with a member more, one with a setting twice, and
an array of one value. -/
theorem json_config_reads_back_spaced :
    parse readConfig (" \x7b \"\\u0063lient_queue_capacity\" : 18446744073709551615 ," ++
      " \"notes\" : [ -1.5e+3 , \"\\ud800\" , \x7b \"default_policy\" : null \x7d ] ," ++
      " \"default_policy\" : \"insert_if_absent\" \x7d ") =
      .ok { defaultPolicy := .insertIfAbsent, queueCapacity := 18446744073709551615 } ∧
    (∃ fault, parse readConfig ("\x7b\"client_queue_capacity\":9," ++
      "\"\\u0063lient_queue_capacity\":9\x7d") = .error fault) ∧
    parse readConfig " [ true ] " = .ok { startTemporary := true } := by
  refine ⟨?_, ?_, ?_⟩
  · have hcapacity : (escapedMember fullConfig).Agrees fullConfig :=
      Member.agrees_of_setting (by decide) (tells_settingValue fullConfig .queueCapacity)
    have hnotes : notesMember.Agrees fullConfig := Member.agrees_of_unknown (by decide)
    have hpolicy := agrees_settingMember fullConfig .defaultPolicy
    refine json_config_reads_back.2.1 fullConfig
      [escapedMember fullConfig, notesMember, settingMember fullConfig .defaultPolicy]
      _ ⟨?_, ?_⟩ (by decide)
    · exact written_of_gap [' '] (by decide) (by decide +kernel)
    · simpa using ⟨hcapacity, hnotes, hpolicy⟩
  · let plainMember := settingMember { queueCapacity := 9 } .queueCapacity
    let escaped := escapedMember { queueCapacity := 9 }
    exact json_config_reads_back.2.2.1 [plainMember.raw, escaped.raw] _ _ _ .queueCapacity
      (written_of_gap [] (by decide) (by decide +kernel)) (List.Sublist.refl _)
      plainMember.spells escaped.spells
  · exact (json_config_reads_back.2.2.2 fullConfig 1 [.boolean true] _
      (written_of_gap [' '] (by decide) (by decide +kernel)) (.cons .startTemporary .nil)).1

end Json
end Keyring
