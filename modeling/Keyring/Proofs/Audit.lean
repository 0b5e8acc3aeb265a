import Keyring.Proofs.History
import Mathlib.Data.Finset.Basic

/-!
# Auditing a store by its log

An auditor who sees only the records of a log, with their messages and fields,
knows the mode of the store and the keys of both sets.  A `Ledger` is what the
auditor keeps, and `Ledger.note` how one record changes it; credentials never
come into it.

The records of an operation form a page, and the pages allowed by a ledger are
few.  The step from store to ledger is proved for one page; what holds at a
place in a whole log is then read off the page around that place.
-/

namespace Keyring

namespace Entries

def keySet (entries : Entries) : Finset String :=
  entries.keys.toFinset

@[simp] theorem mem_keySet {entries : Entries} {key : String} :
    key ∈ keySet entries ↔ key ∈ entries := by
  simp [keySet]

theorem card_keySet (entries : Entries) : (keySet entries).card = entries.size := by
  rw [keySet, List.toFinset_card_of_nodup Std.ExtTreeMap.nodup_keys,
    Std.ExtTreeMap.length_keys]

@[simp] theorem keySet_empty : keySet ∅ = ∅ := by
  ext key
  simp

@[simp] theorem keySet_insert (entries : Entries) (key : String) (credential : Credential) :
    keySet (entries.insert key credential) = insert key (keySet entries) := by
  ext other
  rw [mem_keySet, Std.ExtTreeMap.mem_insert, Std.compare_eq_iff_eq, Finset.mem_insert,
    mem_keySet, eq_comm]

@[simp] theorem keySet_erase (entries : Entries) (key : String) :
    keySet (entries.erase key) = (keySet entries).erase key := by
  ext other
  rw [mem_keySet, Std.ExtTreeMap.mem_erase, ne_eq, Std.compare_eq_iff_eq, Finset.mem_erase,
    mem_keySet, ne_comm]

end Entries

namespace LogRecord

def text? (record : LogRecord) (name : String) : Option String :=
  match record.fields.lookup name with
  | some (.text value) => some value
  | _ => none

/-- The mode that a field names. -/
def mode? (record : LogRecord) (name : String) : Option Mode :=
  match record.text? name with
  | some "persistent" => some .persistent
  | some "temporary" => some .temporary
  | _ => none

theorem mode?_of_text? {record : LogRecord} {name : String} {mode : Mode}
    (h : record.text? name = some mode.name) : record.mode? name = some mode := by
  rw [mode?, h]
  cases mode <;> rfl

end LogRecord

/-- What can be known of a store from its log. -/
structure Ledger where
  mode : Mode := .persistent
  persistent : Finset String := ∅
  temporary : Finset String := ∅

namespace Ledger

def keys (ledger : Ledger) : Mode → Finset String
  | .persistent => ledger.persistent
  | .temporary => ledger.temporary

/-- The keys that calls find. -/
def active (ledger : Ledger) : Finset String :=
  ledger.keys ledger.mode

def modify (ledger : Ledger) (change : Finset String → Finset String) : Mode → Ledger
  | .persistent => { ledger with persistent := change ledger.persistent }
  | .temporary => { ledger with temporary := change ledger.temporary }

theorem modify_insert_of_mem {ledger : Ledger} {key : String} {mode : Mode}
    (h : key ∈ ledger.keys mode) : ledger.modify (insert key) mode = ledger := by
  cases mode with
  | persistent => simp only [modify, Finset.insert_eq_of_mem (show key ∈ ledger.persistent from h)]
  | temporary => simp only [modify, Finset.insert_eq_of_mem (show key ∈ ledger.temporary from h)]

/-- One record read by the auditor. -/
def note (ledger : Ledger) (record : LogRecord) : Ledger :=
  match record.message, record.text? "key", record.mode? "mode", record.mode? "to" with
  | "Initializing credential store", _, some mode, _ => { mode }
  | "Storing credential", some key, some mode, _ => ledger.modify (insert key) mode
  | "Removed credential", some key, some mode, _ => ledger.modify (·.erase key) mode
  | "Switching credential cache mode", _, _, some target => { ledger with mode := target }
  | "Cleared temporary credentials", _, _, _ => { ledger with temporary := ∅ }
  | _, _, _, _ => ledger

def read (ledger : Ledger) (log : List LogRecord) : Ledger :=
  log.foldl note ledger

def replay (log : List LogRecord) : Ledger :=
  read {} log

theorem read_append (ledger : Ledger) (first second : List LogRecord) :
    ledger.read (first ++ second) = (ledger.read first).read second :=
  List.foldl_append ..

/-! ## The records of a store -/

section Records

variable (ledger : Ledger)

/-- The fields that name a key and the mode in which it is addressed. -/
def place (key : String) (more : List (String × FieldValue) := []) :
    List (String × FieldValue) :=
  ("key", .text key) :: ("mode", .text ledger.mode.name) :: more

def storing (key policy : String) : LogRecord :=
  ⟨.debug, "Storing credential", ledger.place key [("policy", .text policy)]⟩

def keeping (key : String) : LogRecord :=
  ⟨.debug, "Credential already present, keeping existing", ledger.place key⟩

/-- The records that are allowed by the ledger of what stands before them. -/
inductive Allows : LogRecord → Prop
  | found {key : String} (hpresent : key ∈ ledger.active) :
      Allows ⟨.debug, "Credential found", ledger.place key⟩
  | missed {key : String} (habsent : key ∉ ledger.active) :
      Allows ⟨.debug, "No credential found", ledger.place key⟩
  | storing (key policy : String) : Allows (ledger.storing key policy)
  | keeping {key : String} (hpresent : key ∈ ledger.active) : Allows (ledger.keeping key)
  | removed {key : String} (hpresent : key ∈ ledger.active) :
      Allows ⟨.debug, "Removed credential", ledger.place key⟩
  | switching {target : Mode} (hchange : ledger.mode ≠ target) :
      Allows ⟨.info, "Switching credential cache mode",
        [("from", .text ledger.mode.name), ("to", .text target.name)]⟩
  | cleared :
      Allows ⟨.info, "Cleared temporary credentials",
        [("count", .count ledger.temporary.card)]⟩

/-- Records of puts, which alone may need a second record. -/
def TellsPut (record : LogRecord) : Prop :=
  record.message = "Storing credential" ∨
    record.message = "Credential already present, keeping existing"

/-- The records of one operation. -/
inductive Page : List LogRecord → Prop
  | silent : Page []
  | single {record : LogRecord} (hallowed : ledger.Allows record)
      (hother : ¬TellsPut record) : Page [record]
  | stored {key policy : String} (hwon : policy = "InsertIfAbsent" → key ∉ ledger.active) :
      Page [ledger.storing key policy]
  | kept {key : String} (hlost : key ∈ ledger.active) :
      Page [ledger.storing key "InsertIfAbsent", ledger.keeping key]

@[simp] theorem text?_key_place
    (level : Level) (message key : String) (more : List (String × FieldValue)) :
    LogRecord.text? ⟨level, message, ledger.place key more⟩ "key" = some key := rfl

@[simp] theorem mode?_mode_place
    (level : Level) (message key : String) (more : List (String × FieldValue)) :
    LogRecord.mode? ⟨level, message, ledger.place key more⟩ "mode" = some ledger.mode :=
  LogRecord.mode?_of_text? rfl

@[simp] theorem note_storing (key policy : String) :
    ledger.note (ledger.storing key policy) = ledger.modify (insert key) ledger.mode := by
  simp [note, storing]

@[simp] theorem note_keeping (key : String) : ledger.note (ledger.keeping key) = ledger := rfl

theorem note_removed (key : String) :
    ledger.note ⟨.debug, "Removed credential", ledger.place key⟩ =
      ledger.modify (·.erase key) ledger.mode := by
  simp [note]

theorem note_switching (target : Mode) (source : String) :
    ledger.note ⟨.info, "Switching credential cache mode",
        [("from", .text source), ("to", .text target.name)]⟩ =
      { ledger with mode := target } := by
  have htarget : LogRecord.mode? ⟨.info, "Switching credential cache mode",
      [("from", .text source), ("to", .text target.name)]⟩ "to" = some target :=
    LogRecord.mode?_of_text? rfl
  simp [note, htarget]

theorem note_cleared (count : Nat) :
    ledger.note ⟨.info, "Cleared temporary credentials", [("count", .count count)]⟩ =
      { ledger with temporary := ∅ } := by
  simp [note]

end Records

/-! ## From the store to its records -/

def ofStore (store : Store) : Ledger :=
  ⟨store.mode, Entries.keySet store.persistent, Entries.keySet store.temporary⟩

@[simp] theorem keys_ofStore (store : Store) (set : Mode) :
    (ofStore store).keys set = Entries.keySet (store.entries set) := by
  cases set <;> rfl

theorem ofStore_modifyActive
    (store : Store) (change : Entries → Entries) (changeKeys : Finset String → Finset String)
    (h : ∀ entries, Entries.keySet (change entries) = changeKeys (Entries.keySet entries)) :
    ofStore (store.modifyActive change) = (ofStore store).modify changeKeys store.mode := by
  unfold Store.modifyActive
  cases hmode : store.mode <;> simp [ofStore, modify, hmode, h]

theorem contains_iff_mem_active (store : Store) (key : String) :
    store.contains key = true ↔ key ∈ (ofStore store).active := by
  rw [active, keys_ofStore, Entries.mem_keySet]
  rfl

/-- What an operation puts in the log. -/
def written (store : Store) (operation : Operation) : List LogRecord :=
  (store.perform operation).events.map Event.record

theorem policy_of_label {policy : WritePolicy} (h : policy.label = "InsertIfAbsent") :
    policy = .insertIfAbsent := by
  cases policy with
  | overwrite => simp [WritePolicy.label] at h
  | insertIfAbsent => rfl

/-- An operation writes one page, and reading it gives the ledger of the store
after the operation. -/
theorem page_perform (store : Store) (operation : Operation) :
    (ofStore store).Page (written store operation) ∧
      (ofStore store).read (written store operation) =
        ofStore (store.perform operation).next := by
  unfold written
  cases operation with
  | get key =>
      have hactive := contains_iff_mem_active store key
      rw [store.contains_eq_isSome_lookup] at hactive
      simp only [Store.perform, Store.get]
      split
      next credential hfound =>
        have hpresent : key ∈ (ofStore store).active := hactive.mp (by simp [hfound])
        have hpage := Page.single (.found hpresent) (by simp [TellsPut])
        exact ⟨hpage, rfl⟩
      next hmissed =>
        have habsent : key ∉ (ofStore store).active := mt hactive.mpr (by simp [hmissed])
        have hpage := Page.single (.missed habsent) (by simp [TellsPut])
        exact ⟨hpage, rfl⟩
  | put rule source credential =>
      cases source with
      | crashing => exact ⟨.silent, rfl⟩
      | text key =>
          have hnote := fun policy => (ofStore store).note_storing key policy
          simp only [Store.perform, Store.put]
          split
          next hlost =>
            have hkey := (contains_iff_mem_active store key).mp hlost.2
            rw [hlost.1]
            exact ⟨.kept hkey, (hnote _).trans (modify_insert_of_mem hkey)⟩
          next hwon =>
            refine ⟨.stored fun hlabel hkey => ?_, (hnote _).trans ?_⟩
            · exact hwon ⟨policy_of_label hlabel, (contains_iff_mem_active store key).mpr hkey⟩
            · exact (ofStore_modifyActive store _ _ fun entries =>
                Entries.keySet_insert entries key credential).symm
  | remove key =>
      simp only [Store.perform, Store.remove]
      split
      next hpresent =>
        have hkey := (contains_iff_mem_active store key).mp hpresent
        have hpage := Page.single (.removed hkey) (by simp [TellsPut])
        refine ⟨hpage, ((ofStore store).note_removed key).trans ?_⟩
        exact (ofStore_modifyActive store (·.erase key) (·.erase key) fun entries =>
          Entries.keySet_erase entries key).symm
      next => exact ⟨.silent, rfl⟩
  | setMode mode =>
      simp only [Store.perform, Store.setMode]
      split
      next hsame => exact ⟨.silent, by subst hsame; rfl⟩
      next hchange =>
        have hpage : (ofStore store).Page [_] :=
          .single (.switching hchange) (by simp [TellsPut])
        exact ⟨hpage, (ofStore store).note_switching mode _⟩
  | clearTemporary =>
      have hcount : store.temporary.size = (ofStore store).temporary.card :=
        (Entries.card_keySet store.temporary).symm
      simp only [Store.perform, Store.clearTemporary, hcount]
      have hpage : (ofStore store).Page [_] := .single .cleared (by simp [TellsPut])
      have hnote := (ofStore store).note_cleared (ofStore store).temporary.card
      exact ⟨hpage, hnote.trans (by simp [ofStore])⟩
  | _ => exact ⟨.silent, rfl⟩

/-- The second record of a put is written exactly when the put is lost. -/
theorem keeping_mem_written_iff
    (store : Store) (rule : PutRule) (key : String) (credential : Credential) :
    (ofStore store).keeping key ∈ written store (.put rule (.text key) credential) ↔
      rule.policy store.defaultPolicy = .insertIfAbsent ∧ store.contains key = true := by
  simp only [written, Store.perform, Store.put]
  split
  next hlost =>
    have hmem : (ofStore store).keeping key ∈
        [Event.record (.storing key store.mode (rule.policy store.defaultPolicy)),
          (ofStore store).keeping key] := by simp
    exact iff_of_true hmem hlost
  next hwon =>
    have hne : (ofStore store).keeping key ∉
        [(ofStore store).storing key (rule.policy store.defaultPolicy).label] := by
      simp [keeping, storing]
    exact iff_of_false hne hwon

/-- A log made of pages, each allowed by the ledger of what stands before it. -/
inductive Follows : Ledger → List LogRecord → Prop
  | nil {ledger : Ledger} : Follows ledger []
  | page {ledger : Ledger} {records rest : List LogRecord}
      (hpage : ledger.Page records) (hrest : Follows (ledger.read records) rest) :
      Follows ledger (records ++ rest)

theorem follows_run (store : Store) (operations : List Operation) :
    (ofStore store).Follows ((store.run operations).events.map Event.record) ∧
      (ofStore store).read ((store.run operations).events.map Event.record) =
        ofStore (store.run operations).next := by
  induction operations generalizing store with
  | nil => exact ⟨.nil, rfl⟩
  | cons operation rest ih =>
      obtain ⟨hpage, hread⟩ := page_perform store operation
      obtain ⟨hrest, hend⟩ := ih (store.perform operation).next
      simp only [Store.run, List.map_append]
      rw [read_append, ← written, hread]
      exact ⟨.page hpage (hread ▸ hrest), hend⟩

/-! ## Places in a log -/

/-- The page around a place in a log. -/
theorem Follows.page_at {ledger : Ledger} {log before after : List LogRecord}
    {record : LogRecord} (h : ledger.Follows log) (hlog : log = before ++ record :: after) :
    ∃ earlier front back later,
      before = earlier ++ front ∧ after = back ++ later ∧
        (ledger.read earlier).Page (front ++ record :: back) := by
  induction h generalizing before with
  | nil => simp at hlog
  | @page ledger records rest hpage hrest ih =>
      rcases List.append_eq_append_iff.mp hlog with
        ⟨front, hbefore, hfront⟩ | ⟨tail, hrecords, htail⟩
      · obtain ⟨earlier, front', back, later, hsplit, hafter, hat⟩ := ih hfront
        refine ⟨records ++ earlier, front', back, later, ?_, hafter, ?_⟩
        · rw [hbefore, hsplit, List.append_assoc]
        · rwa [read_append]
      · cases tail with
        | nil =>
            have hrest : rest = [] ++ record :: after := htail.symm
            obtain ⟨earlier, front', back, later, hsplit, hafter, hat⟩ := ih hrest
            obtain ⟨rfl, rfl⟩ := List.append_eq_nil_iff.mp hsplit.symm
            refine ⟨records, [], back, later, ?_, hafter, ?_⟩
            · simpa using hrecords.symm
            · simpa [read] using hat
        | cons first back =>
            obtain ⟨rfl, hafter⟩ := List.cons.inj htail
            refine ⟨[], before, back, rest, rfl, hafter, ?_⟩
            exact hrecords ▸ hpage

/-- A page has one record, unless it tells of a put that is lost. -/
theorem Page.alone_or_lost {ledger : Ledger} {front back : List LogRecord}
    {record : LogRecord} (h : ledger.Page (front ++ record :: back)) :
    (front = [] ∧ back = [] ∧ ledger.Page [record]) ∨
      ∃ key, key ∈ ledger.active ∧
        ((front = [] ∧ record = ledger.storing key "InsertIfAbsent" ∧
            back = [ledger.keeping key]) ∨
          (front = [ledger.storing key "InsertIfAbsent"] ∧
            record = ledger.keeping key ∧ back = [])) := by
  cases front with
  | nil =>
      cases back with
      | nil => exact .inl ⟨rfl, rfl, h⟩
      | cons second more =>
          cases h with
          | kept hlost => exact .inr ⟨_, hlost, .inl ⟨rfl, rfl, rfl⟩⟩
  | cons first more =>
      cases more with
      | nil =>
          cases back with
          | nil =>
              cases h with
              | kept hlost => exact .inr ⟨_, hlost, .inr ⟨rfl, rfl, rfl⟩⟩
          | cons third more => cases h
      | cons second more =>
          cases more <;> cases h

/-- A record stands alone on its page, or is one of the two that tell of a put
that is lost. -/
theorem Follows.record_at {start : Ledger} {log before after : List LogRecord}
    {record : LogRecord} (h : start.Follows log) (hlog : log = before ++ record :: after) :
    (start.read before).Page [record] ∨
      (∃ key later, key ∈ (start.read before).active ∧
        record = (start.read before).storing key "InsertIfAbsent" ∧
        after = (start.read before).keeping key :: later) ∨
      ∃ key earlier, key ∈ (start.read earlier).active ∧
        record = (start.read earlier).keeping key ∧
        before = earlier ++ [(start.read earlier).storing key "InsertIfAbsent"] := by
  obtain ⟨earlier, front, back, later, rfl, rfl, hpage⟩ := h.page_at hlog
  rcases hpage.alone_or_lost with ⟨rfl, rfl, halone⟩ | ⟨key, hkey, hplace⟩
  · rw [List.append_nil]
    exact .inl halone
  · rcases hplace with ⟨rfl, rfl, rfl⟩ | ⟨rfl, rfl, rfl⟩
    · rw [List.append_nil]
      exact .inr (.inl ⟨key, later, hkey, rfl, rfl⟩)
    · exact .inr (.inr ⟨key, earlier, hkey, rfl, rfl⟩)

/-- What an auditor who starts from a ledger can rely on at every place of a log:
each record is as the ledger of the records before it allows, and the second
record of a put stands exactly behind the puts that are lost. -/
structure Reliable (start : Ledger) (log : List LogRecord) : Prop where
  allowed : ∀ before record after, log = before ++ record :: after →
    (start.read before).Allows record
  kept : ∀ before record after, log = before ++ record :: after →
    record.message = "Credential already present, keeping existing" →
      ∃ earlier key, before = earlier ++ [(start.read earlier).storing key "InsertIfAbsent"] ∧
        key ∈ (start.read earlier).active ∧ record = (start.read earlier).keeping key
  lost : ∀ before record after key, log = before ++ record :: after →
    record.message = "Storing credential" → record.text? "key" = some key →
      record.text? "policy" = some "InsertIfAbsent" → key ∈ (start.read before).active →
        ∃ later, after = (start.read before).keeping key :: later

theorem Page.allows {ledger : Ledger} {record : LogRecord} (h : ledger.Page [record]) :
    ledger.Allows record := by
  cases h with
  | single hallowed hother => exact hallowed
  | stored hwon => exact .storing _ _

theorem reliable_of_follows {start : Ledger} {log : List LogRecord}
    (h : start.Follows log) : start.Reliable log := by
  constructor
  · intro before record after hlog
    rcases h.record_at hlog with halone | ⟨key, later, hkey, rfl, -⟩ |
      ⟨key, earlier, hkey, rfl, hbefore⟩
    · exact halone.allows
    · exact .storing key _
    · have hread : start.read before = start.read earlier := by
        rw [hbefore, read_append]
        exact ((start.read earlier).note_storing key _).trans (modify_insert_of_mem hkey)
      rw [hread]
      exact .keeping hkey
  · intro before record after hlog hmessage
    rcases h.record_at hlog with halone | ⟨key, later, -, rfl, -⟩ |
      ⟨key, earlier, hkey, rfl, hbefore⟩
    · cases halone with
      | single hallowed hother => exact absurd (.inr hmessage) hother
      | stored hwon => simp [storing] at hmessage
    · simp [storing] at hmessage
    · exact ⟨earlier, key, hbefore, hkey, rfl⟩
  · intro before record after key hlog hmessage hname hpolicy hkey
    rcases h.record_at hlog with halone | ⟨other, later, -, rfl, hafter⟩ |
      ⟨other, earlier, -, rfl, -⟩
    · cases halone with
      | single hallowed hother => exact absurd (.inl hmessage) hother
      | @stored other policy hwon =>
          obtain rfl : other = key := Option.some.inj hname
          obtain rfl : policy = "InsertIfAbsent" := Option.some.inj hpolicy
          exact absurd hkey (hwon rfl)
    · obtain rfl : other = key := Option.some.inj hname
      exact ⟨later, hafter⟩
    · simp [keeping] at hmessage

end Ledger

open Ledger

namespace Opening

/-- What the opening of a store puts in the log. -/
def records : Opening → List LogRecord
  | .plain => []
  | .configured config =>
    [⟨.info, "Initializing credential store",
      [("mode", .text (if config.startTemporary then "temporary" else "persistent")),
        ("policy", .text config.defaultPolicy.label)]⟩]

theorem records_events (opening : Opening) :
    opening.events.map Event.record = opening.records := by
  cases opening with
  | plain => rfl
  | configured config =>
      obtain ⟨startTemporary, policy, capacity⟩ := config
      cases startTemporary <;> rfl

theorem replay_records (opening : Opening) :
    replay opening.records = ofStore opening.store := by
  cases opening with
  | plain => rfl
  | configured config =>
      obtain ⟨startTemporary, policy, capacity⟩ := config
      cases startTemporary <;> rfl

end Opening

namespace Ledger

/-- The ledger of a log is that of the store, every record agrees with it, and
the answer of a put tells what the log tells.  As the operations are arbitrary,
this holds after each of them. -/
theorem replay_tells_store (opening : Opening) (operations : List Operation) :
    let log := (opening.store.run operations).events.map Event.record
    let store := (opening.store.run operations).next
    opening.events.map Event.record = opening.records ∧
      replay (opening.records ++ log) = ⟨store.mode, Entries.keySet store.persistent,
        Entries.keySet store.temporary⟩ ∧
      Reliable (replay opening.records) log ∧
      ∀ key credential,
        let put := fun rule => store.perform (.put rule (.text key) credential)
        let kept := fun rule =>
          (replay (opening.records ++ log)).keeping key ∈ (put rule).events.map Event.record
        (put .replace).answer = .done .nothing ∧ ¬kept .replace ∧
          (∃ stored, (put .byDefault).answer = .done (.flag stored) ∧
            (stored = false ↔ kept .byDefault)) ∧
          ∀ policy, ∃ stored, (put (.under policy)).answer = .done (.flag stored) ∧
            (stored = false ↔ kept (.under policy)) := by
  intro log store
  obtain ⟨hfollows, hend⟩ := follows_run opening.store operations
  have hreplay : replay (opening.records ++ log) = ofStore store := by
    rw [replay, read_append, ← replay, opening.replay_records, hend]
  refine ⟨opening.records_events, hreplay, ?_, ?_⟩
  · rw [opening.replay_records]
    exact reliable_of_follows hfollows
  intro key credential put kept
  have hput : ∀ rule, ∃ stored, (put rule).answer = .done (.ofPut rule stored) ∧
      (stored = false ↔ kept rule) := by
    intro rule
    obtain ⟨stored, hanswer, hstored⟩ := store.answer_perform_put rule key credential
    refine ⟨stored, hanswer, hstored.trans ?_⟩
    simp only [kept, hreplay]
    exact (keeping_mem_written_iff store rule key credential).symm
  refine ⟨rfl, ?_, hput .byDefault, fun policy => hput (.under policy)⟩
  simp only [kept, hreplay]
  exact mt (keeping_mem_written_iff store .replace key credential).mp (by simp [PutRule.policy])

end Ledger
end Keyring
