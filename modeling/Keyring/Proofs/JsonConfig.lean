import Keyring.Config.Json
import Keyring.Proofs.JsonValues
import Mathlib.Tactic

/-!
# What an object or an array says of a configuration

Reading keeps a draft of the settings that it has met.  Each member that is a
setting adds to the draft, and every other member leaves it as it is, whatever
its value.  A setting that is in the draft already is refused, so an object is
read only if it names no setting twice.
-/

namespace Keyring

namespace Config

/-- The settings that are present, and the defaults for the others. -/
def only (config : Config) (present : List Setting) : Config where
  startTemporary := if .startTemporary ∈ present then config.startTemporary else false
  defaultPolicy := if .defaultPolicy ∈ present then config.defaultPolicy else .overwrite
  queueCapacity := if .queueCapacity ∈ present then config.queueCapacity else 64

def draft (config : Config) (present : List Setting) : Draft where
  startTemporary := if .startTemporary ∈ present then some config.startTemporary else none
  defaultPolicy := if .defaultPolicy ∈ present then some config.defaultPolicy else none
  queueCapacity := if .queueCapacity ∈ present then some config.queueCapacity else none

variable (config : Config)

theorem complete_draft (present : List Setting) :
    (config.draft present).complete = config.only present := by
  simp only [draft, Draft.complete, only, defaultQueueCapacity]
  congr 1 <;> split <;> rfl

theorem draft_nil : config.draft [] = {} := rfl

theorem has_draft (present : List Setting) (setting : Setting) :
    (config.draft present).has setting = decide (setting ∈ present) := by
  cases setting <;> simp only [draft, Draft.has] <;> split <;> simp_all

theorem only_perm {present present' : List Setting} (hperm : present.Perm present') :
    config.only present = config.only present' := by
  simp [only, hperm.mem_iff]

theorem only_all : config.only Setting.all = config := by
  simp [only, Setting.all]

end Config

namespace Json

/-- What a configuration says of a setting. -/
inductive Tells (config : Config) : Setting → Value → Prop
  | startTemporary : Tells config .startTemporary (.boolean config.startTemporary)
  | defaultPolicy {literal : Literal} : Spells config.defaultPolicy.name.toList literal →
      Tells config .defaultPolicy (.text literal)
  | queueCapacity : Tells config .queueCapacity (.number (.ofNat config.queueCapacity.toNat))

theorem readSetting_of_tells {config : Config} {setting : Setting} {value : Value}
    (htells : Tells config setting value) (seen : List Setting) (rest : List Token) :
    readSetting (config.draft seen) setting (value.tokens ++ rest) =
      .ok (config.draft (seen ++ [setting]), rest) := by
  cases htells with
  | startTemporary => simp [readSetting, readFlag, Except.map, Config.draft]
  | @defaultPolicy literal hspells =>
      have hfind : (WritePolicy.all.find? fun policy =>
          policy.name == config.defaultPolicy.name) = some config.defaultPolicy :=
        WritePolicy.ofName?_name _
      simp [readSetting, readPolicy, readChoice, hspells.text?, hfind, Except.map, Config.draft]
  | queueCapacity =>
      have hquantity := NumberText.quantity?_ofNat config.queueCapacity.toNat_lt
      simp [readSetting, readCapacity, hquantity, Except.map, Config.draft]

section Consumption

/-- If a reader takes a value at all, it takes the tokens of that value and no more. -/
def TakesValues {α : Type} (reader : Reader α) : Prop :=
  ∀ (value : Value) (rest : List Token) {found : α} {rest' : List Token},
    reader (value.tokens ++ rest) = .ok (found, rest') → rest' = rest

theorem takesValues_readFlag : TakesValues readFlag := by
  intro value rest found rest' hread
  cases value <;> simp_all [readFlag]

theorem takesValues_readCapacity : TakesValues readCapacity := by
  intro value rest found rest' hread
  cases value with
  | number written =>
      simp only [Value.tokens_number, List.singleton_append, readCapacity] at hread
      split at hread <;> simp_all
  | _ => simp_all [readCapacity]

theorem readChoiceEnd_ok {α : Type} {choice found : α} {value : Value}
    {members : List (Literal × Value)} {rest rest' : List Token}
    (hread : readChoiceEnd choice (.colon :: (value.tokens ++
      (memberTokens false members ++ .closeBrace :: rest))) = .ok (found, rest')) :
    rest' = rest := by
  cases value with
  | null =>
      cases members with
      | nil => simp_all [readChoiceEnd]
      | cons member members =>
          obtain ⟨name, value⟩ := member
          simp [readChoiceEnd] at hread
  | _ => simp [readChoiceEnd] at hread

theorem takesValues_readChoice {α : Type} (name : α → String) (choices : List α) :
    TakesValues (readChoice name choices) := by
  intro value rest found rest' hread
  cases value with
  | text literal =>
      cases htext : literal.text? with
      | none => simp [htext, readChoice] at hread
      | some text =>
          simp only [Value.tokens_text, htext, List.singleton_append, readChoice] at hread
          split at hread <;> simp_all
  | object members =>
      match members with
      | [] => simp [readChoice] at hread
      | (literal, value) :: members =>
          cases htext : literal.text? with
          | none => simp [htext, readChoice] at hread
          | some text =>
              simp only [Value.tokens_object, memberTokens_first, htext, List.cons_append,
                List.append_assoc, readChoice] at hread
              split at hread
              · exact readChoiceEnd_ok hread
              · simp at hread
  | _ => simp [readChoice] at hread

theorem TakesValues.map_ok {α : Type} {reader : Reader α} (htakes : TakesValues reader)
    (enter : α → Draft) {draft : Draft} {value : Value} {rest rest' : List Token}
    (hread : (reader (value.tokens ++ rest)).map (fun taken => (enter taken.1, taken.2)) =
      .ok (draft, rest')) :
    rest' = rest ∧ ∃ found, draft = enter found := by
  cases htaken : reader (value.tokens ++ rest) with
  | error fault => simp [htaken, Except.map] at hread
  | ok taken =>
      obtain ⟨found, after⟩ := taken
      have hafter := htakes value rest htaken
      simp only [htaken, Except.map, Except.ok.injEq, Prod.mk.injEq] at hread
      obtain ⟨rfl, rfl⟩ := hread
      exact ⟨hafter, found, rfl⟩

theorem readSetting_ok {draft draft' : Draft} {setting : Setting} {value : Value}
    {rest rest' : List Token}
    (hread : readSetting draft setting (value.tokens ++ rest) = .ok (draft', rest')) :
    rest' = rest ∧ ∀ other, draft'.has other = (decide (other = setting) || draft.has other) := by
  cases setting with
  | startTemporary =>
      obtain ⟨hrest, found, hdraft⟩ := takesValues_readFlag.map_ok
        (fun found => { draft with startTemporary := some found }) hread
      exact ⟨hrest, fun other => by cases other <;> simp [hdraft, Draft.has]⟩
  | defaultPolicy =>
      obtain ⟨hrest, found, hdraft⟩ := (takesValues_readChoice _ _).map_ok
        (fun found => { draft with defaultPolicy := some found }) hread
      exact ⟨hrest, fun other => by cases other <;> simp [hdraft, Draft.has]⟩
  | queueCapacity =>
      obtain ⟨hrest, found, hdraft⟩ := takesValues_readCapacity.map_ok
        (fun found => { draft with queueCapacity := some found }) hread
      exact ⟨hrest, fun other => by cases other <;> simp [hdraft, Draft.has]⟩

end Consumption

section Steps

variable {draft : Draft} {rest : List Token}

theorem readMembers_closeBrace (isFirst : Bool) :
    readMembers isFirst draft (.closeBrace :: rest) = .ok (draft, rest) := by
  cases isFirst <;> rw [readMembers]

theorem readMembers_cons (isFirst : Bool) (name : Literal) (value : Value)
    (members : List (Literal × Value)) {key : String} (hname : name.text? = some key) :
    readMembers isFirst draft (memberTokens isFirst ((name, value) :: members) ++ rest) =
      (readMember draft key (.colon :: (value.tokens ++ (memberTokens false members ++ rest)))).bind
        fun taken => readMembers false taken.1 taken.2 := by
  cases isFirst with
  | true =>
      simp only [memberTokens_first, hname, List.cons_append, List.append_assoc]
      rw [readMembers]
      split <;> simp_all [Except.bind]
  | false =>
      simp only [memberTokens_next, hname, List.cons_append, List.append_assoc]
      rw [readMembers]
      split <;> simp_all [Except.bind]

theorem readMembers_unnamed (isFirst : Bool) (name : Literal) (value : Value)
    (members : List (Literal × Value)) (hname : name.text? = none) :
    readMembers isFirst draft (memberTokens isFirst ((name, value) :: members) ++ rest) =
      .error .malformed := by
  cases isFirst <;> simp [hname, readMembers]

theorem readElements_closeBracket (isFirst : Bool) (settings : List Setting) :
    readElements isFirst draft settings (.closeBracket :: rest) = .ok (draft, rest) := by
  cases settings <;> cases isFirst <;> rw [readElements]

theorem readElements_cons (isFirst : Bool) (setting : Setting) (settings : List Setting)
    (value : Value) (values : List Value) :
    readElements isFirst draft (setting :: settings)
        (elementTokens isFirst (value :: values) ++ rest) =
      (readSetting draft setting (value.tokens ++ (elementTokens false values ++ rest))).bind
        fun taken => readElements false taken.1 settings taken.2 := by
  -- No value begins with a closing bracket, which would end the elements.
  cases isFirst with
  | true =>
      cases hread : readSetting draft setting
          (value.tokens ++ (elementTokens false values ++ rest)) <;>
        cases value <;> simp_all [readElements, Except.bind]
  | false =>
      cases hread : readSetting draft setting
          (value.tokens ++ (elementTokens false values ++ rest)) <;>
        cases value <;> simp_all [readElements, Except.bind]

end Steps

section Objects

/-- A member with a name that can be read.  With any other name an object is refused. -/
structure Member where
  name : String
  literal : Literal
  spells : Spells name.toList literal
  value : Value

namespace Member

def setting? (member : Member) : Option Setting :=
  Setting.ofName? member.name

def raw (member : Member) : Literal × Value :=
  (member.literal, member.value)

/-- A member that is a setting tells what the configuration says of it. -/
def Agrees (config : Config) (member : Member) : Prop :=
  ∀ setting ∈ member.setting?, Tells config setting member.value

theorem agrees_of_setting {config : Config} {member : Member} {setting : Setting}
    (hsetting : member.setting? = some setting) (htells : Tells config setting member.value) :
    member.Agrees config := by
  simpa [Agrees, hsetting] using htells

theorem agrees_of_unknown {config : Config} {member : Member} (hunknown : member.setting? = none) :
    member.Agrees config := by
  simp [Agrees, hunknown]

end Member

def settings (members : List Member) : List Setting :=
  members.filterMap Member.setting?

theorem settings_cons (member : Member) (members : List Member) :
    settings (member :: members) = member.setting?.toList ++ settings members := by
  cases hsetting : member.setting? <;> simp [settings, hsetting]

variable {config : Config}

theorem readMember_of_agrees {member : Member} (hagrees : member.Agrees config)
    {seen : List Setting} (hfresh : ∀ setting ∈ member.setting?, setting ∉ seen)
    (rest : List Token) :
    readMember (config.draft seen) member.name (.colon :: (member.value.tokens ++ rest)) =
      .ok (config.draft (seen ++ member.setting?.toList), rest) := by
  cases hsetting : member.setting? with
  | none =>
      have hname : Setting.ofName? member.name = none := hsetting
      simp [readMember, hname, skipValue_tokens]
  | some setting =>
      have hname : Setting.ofName? member.name = some setting := hsetting
      have hread := readSetting_of_tells (hagrees setting hsetting) seen rest
      have hnew : (config.draft seen).has setting = false := by
        simpa [Config.has_draft] using hfresh setting hsetting
      simp [readMember, hname, hnew, hread]

theorem readMembers_of_agrees {members : List Member}
    (hagrees : ∀ member ∈ members, member.Agrees config) (isFirst : Bool) (seen : List Setting)
    (hnodup : (seen ++ settings members).Nodup) (rest : List Token) :
    readMembers isFirst (config.draft seen)
        (memberTokens isFirst (members.map Member.raw) ++ .closeBrace :: rest) =
      .ok (config.draft (seen ++ settings members), rest) := by
  induction members generalizing isFirst seen with
  | nil => simpa [settings] using readMembers_closeBrace isFirst
  | cons member members ih =>
      obtain ⟨hmember, hmembers⟩ := List.forall_mem_cons.mp hagrees
      rw [settings_cons, ← List.append_assoc] at hnodup
      have hfresh : ∀ setting ∈ member.setting?, setting ∉ seen := by
        intro setting hsetting hseen
        have hdisjoint := List.disjoint_of_nodup_append hnodup.of_append_left
        exact hdisjoint hseen (by simpa using hsetting)
      rw [List.map_cons, Member.raw, readMembers_cons isFirst _ _ _ member.spells.text?,
        readMember_of_agrees hmember hfresh, settings_cons, ← List.append_assoc]
      exact ih hmembers false _ hnodup

end Objects

theorem readElements_of_tells {config : Config} {present : List Setting} {values : List Value}
    (htells : List.Forall₂ (Tells config) present values) (isFirst : Bool) (seen : List Setting)
    (others : List Setting) (rest : List Token) :
    readElements isFirst (config.draft seen) (present ++ others)
        (elementTokens isFirst values ++ .closeBracket :: rest) =
      .ok (config.draft (seen ++ present), rest) := by
  induction htells generalizing isFirst seen with
  | nil => simpa using readElements_closeBracket isFirst others
  | @cons setting value present values hfirst _ ih =>
      rw [List.cons_append, readElements_cons, readSetting_of_tells hfirst]
      have htail := ih false (seen ++ [setting])
      simpa [Except.bind] using htail

section Repeats

def settingNamed? (name : Literal) : Option Setting :=
  name.text?.bind Setting.ofName?

/-- The settings that members name, whatever their values. -/
def named (members : List (Literal × Value)) : List Setting :=
  members.filterMap fun member => settingNamed? member.1

variable {draft draft' : Draft} {rest rest' : List Token}

/-- A member that is read names a setting that was not in the draft, or none. -/
theorem readMember_ok {key : String} {value : Value}
    (hread : readMember draft key (.colon :: (value.tokens ++ rest)) = .ok (draft', rest')) :
    rest' = rest ∧ (∀ setting ∈ Setting.ofName? key, draft.has setting = false) ∧
      ∀ other, draft'.has other =
        (decide (Setting.ofName? key = some other) || draft.has other) := by
  cases hname : Setting.ofName? key with
  | none =>
      simp only [readMember, hname, skipValue_tokens, Except.ok.injEq, Prod.mk.injEq] at hread
      obtain ⟨rfl, rfl⟩ := hread
      simp
  | some setting =>
      cases hhas : draft.has setting with
      | true => simp [readMember, hname, hhas] at hread
      | false =>
          simp only [readMember, hname, hhas, Bool.false_eq_true, if_false] at hread
          obtain ⟨hrest, hdraft⟩ := readSetting_ok hread
          refine ⟨hrest, by simp [hhas], fun other => ?_⟩
          simp [hdraft, eq_comm]

/-- What holds of members that are read: they name no setting twice, and none that
was in the draft. -/
structure Readable (draft : Draft) (members : List (Literal × Value)) : Prop where
  readableNames : ∀ member ∈ members, ∃ key, member.1.text? = some key
  nodup : (named members).Nodup
  fresh : ∀ setting ∈ named members, draft.has setting = false

theorem readMembers_ok {members : List (Literal × Value)} {isFirst : Bool}
    (hread : readMembers isFirst draft (memberTokens isFirst members ++ rest) =
      .ok (draft', rest')) :
    Readable draft members := by
  induction members generalizing isFirst draft with
  | nil => constructor <;> simp [named]
  | cons member members ih =>
      obtain ⟨name, value⟩ := member
      cases hname : name.text? with
      | none => simp [readMembers_unnamed isFirst name value members hname] at hread
      | some key =>
          rw [readMembers_cons isFirst name value members hname] at hread
          cases hmember : readMember draft key
              (.colon :: (value.tokens ++ (memberTokens false members ++ rest))) with
          | error fault => simp [hmember, Except.bind] at hread
          | ok taken =>
              obtain ⟨draft₁, rest₁⟩ := taken
              obtain ⟨rfl, hfree, hhas⟩ := readMember_ok hmember
              rw [hmember] at hread
              -- What is read is in the draft, so the members after it do not name it again.
              have htail := ih hread
              have hfresh := htail.fresh
              simp only [hhas, Bool.or_eq_false_iff, decide_eq_false_iff_not] at hfresh
              have hnames : ∀ member ∈ (name, value) :: members,
                  ∃ key, member.1.text? = some key :=
                List.forall_mem_cons.mpr ⟨⟨key, hname⟩, htail.readableNames⟩
              cases hsetting : Setting.ofName? key with
              | none =>
                  have hnamed : named ((name, value) :: members) = named members := by
                    simp [named, settingNamed?, hname, hsetting]
                  exact ⟨hnames, by rw [hnamed]; exact htail.nodup,
                    by rw [hnamed]; exact fun setting hmem => (hfresh setting hmem).2⟩
              | some first =>
                  have hnamed : named ((name, value) :: members) = first :: named members := by
                    simp [named, settingNamed?, hname, hsetting]
                  have hnew : first ∉ named members := fun hmem => (hfresh first hmem).1 hsetting
                  refine ⟨hnames, ?_, ?_⟩
                  · rw [hnamed]
                    exact List.nodup_cons.mpr ⟨hnew, htail.nodup⟩
                  · rw [hnamed]
                    exact List.forall_mem_cons.mpr ⟨hfree first hsetting,
                      fun setting hmem => (hfresh setting hmem).2⟩

end Repeats

end Json
end Keyring
