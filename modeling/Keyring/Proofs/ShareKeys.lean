import Keyring.Proofs.Threads

/-!
# Keys of shares

The key of a share is the name of its server, a separator and its own name.
Nothing is escaped, so a key in which the separator stands more than once can be
cut in more than one way.  The shares that have this key are those cuts, and
there is no other way for two shares to have one key.

A store knows shares by their keys only.  What is done under one key is not
noticed under another, and shares of one key have one entry.
-/

namespace Keyring

theorem cut_cases_of_longer {α : Type} {separator : α} {first second before after more : List α}
    (hbefore : before = first ++ more)
    (hsecond : separator :: second = more ++ separator :: after) :
    (first = before ∧ second = after) ∨
      ∃ middle, before = first ++ separator :: middle ∧ second = middle ++ separator :: after := by
  cases more with
  | nil => exact .inl ⟨by simpa using hbefore.symm, by simpa using hsecond⟩
  | cons head middle =>
      obtain ⟨rfl, htail⟩ := List.cons.inj hsecond
      exact .inr ⟨middle, hbefore, htail⟩

/-- Two cuts of one list at a separator are the same cut, or one of them is the earlier one. -/
theorem cut_eq_cut_iff {α : Type} {separator : α} {first second before after : List α} :
    first ++ separator :: second = before ++ separator :: after ↔
      (first = before ∧ second = after) ∨
      (∃ middle, before = first ++ separator :: middle ∧ second = middle ++ separator :: after) ∨
      ∃ middle, first = before ++ separator :: middle ∧ after = middle ++ separator :: second := by
  constructor
  · intro hcut
    rcases List.append_eq_append_iff.mp hcut with ⟨more, hbefore, hsecond⟩ | ⟨more, hfirst, hafter⟩
    · rcases cut_cases_of_longer hbefore hsecond with hsame | hearlier
      · exact .inl hsame
      · exact .inr (.inl hearlier)
    · rcases cut_cases_of_longer hfirst hafter with ⟨rfl, rfl⟩ | hlater
      · exact .inl ⟨rfl, rfl⟩
      · exact .inr (.inr hlater)
  · rintro (⟨rfl, rfl⟩ | ⟨middle, rfl, rfl⟩ | ⟨middle, rfl, rfl⟩) <;> simp

/-- A share by the name of its server and its own. -/
structure Share where
  server : String
  name : String
  deriving DecidableEq

namespace Share

def key (share : Share) : String :=
  shareKey share.server share.name

/-- The key of both is cut for one share at an earlier separator than for the other. -/
def Overlaps (one two : Share) : Prop :=
  ∃ middle, two.server = one.server ++ "\\" ++ middle ∧ one.name = middle ++ "\\" ++ two.name

theorem toList_key (share : Share) :
    share.key.toList = share.server.toList ++ '\\' :: share.name.toList := by
  simp [key, shareKey]

theorem eq_iff_toList (one two : Share) :
    one = two ↔ one.server.toList = two.server.toList ∧ one.name.toList = two.name.toList := by
  cases one
  cases two
  simp [String.toList_inj]

theorem overlaps_iff_toList (one two : Share) :
    one.Overlaps two ↔ ∃ middle, two.server.toList = one.server.toList ++ '\\' :: middle ∧
      one.name.toList = middle ++ '\\' :: two.name.toList := by
  constructor
  · rintro ⟨middle, hserver, hname⟩
    exact ⟨middle.toList, by simp [hserver], by simp [hname]⟩
  · rintro ⟨middle, hserver, hname⟩
    refine ⟨String.ofList middle, ?_, ?_⟩
    · apply String.toList_inj.mp
      simp [hserver]
    · apply String.toList_inj.mp
      simp [hname]

theorem key_eq_key_iff (one two : Share) :
    one.key = two.key ↔ one = two ∨ one.Overlaps two ∨ two.Overlaps one := by
  rw [← String.toList_inj, toList_key, toList_key, cut_eq_cut_iff, eq_iff_toList,
    overlaps_iff_toList, overlaps_iff_toList]

variable {one two : Share}

theorem Overlaps.separator_mem (h : one.Overlaps two) :
    '\\' ∈ two.server.toList ∧ '\\' ∈ one.name.toList := by
  obtain ⟨middle, hserver, hname⟩ := h
  simp [hserver, hname]

end Share

namespace Store

/-- Calls under one key are not noticed under another. -/
theorem agreeAt_run_elsewhere
    {keys : List String} {key : String} (helsewhere : key ∉ keys) {one two : Store}
    (hagree : AgreeAt keys one two) {operations : List Operation}
    (hkeys : ∀ operation ∈ operations, operation.key? = some key) :
    AgreeAt keys (one.run operations).next two := by
  induction operations generalizing one with
  | nil => exact hagree
  | cons operation rest ih =>
      obtain ⟨hkey, hrest⟩ := List.forall_mem_cons.mp hkeys
      exact ih (hagree.perform_elsewhere hkey helsewhere) hrest

theorem lookup_put
    (store : Store) (rule : PutRule) (key : String) (credential : Credential) :
    (store.perform (.put rule (.text key) credential)).next.lookup key =
      Mark.apply (store.lookup key) (.put (rule.policy store.defaultPolicy) credential) := by
  rw [lookup_perform store rfl]
  simp

theorem lookup_remove (store : Store) (key : String) :
    (store.perform (.remove key)).next.lookup key = none := by
  rw [lookup_perform store rfl]
  simp [Operation.mark?, Mark.apply]

end Store

namespace Share

/-- Which shares have one key, and what that means for their entries. -/
theorem keys_collide_by_overlap_only :
    (∀ one two : Share,
      one.key = two.key ↔ one = two ∨ one.Overlaps two ∨ two.Overlaps one) ∧
    (∀ one two : Share, one ≠ two →
      (('\\' ∉ one.server.toList ∧ '\\' ∉ two.server.toList) ∨
        ('\\' ∉ one.name.toList ∧ '\\' ∉ two.name.toList)) →
      one.key ≠ two.key) ∧
    (∀ one two : Share, one.key ≠ two.key →
      ∀ (store : Store) (operations : List Operation),
        (∀ operation ∈ operations, operation.key? = some one.key) →
        (store.run operations).next.lookup two.key = store.lookup two.key ∧
          (store.run operations).next.contains two.key = store.contains two.key) ∧
    (∀ one two : Share, one.key = two.key →
      ∀ (store : Store) (rule : PutRule) (credential : Credential),
        let put := store.perform (.put rule (.text one.key) credential)
        let removed := store.perform (.remove one.key)
        put.next.lookup two.key =
            (match rule.policy store.defaultPolicy with
            | .overwrite => some credential
            | .insertIfAbsent => (store.lookup two.key).or (some credential)) ∧
          put.next.contains two.key = true ∧
          removed.next.lookup two.key = none ∧ removed.next.contains two.key = false) := by
  refine ⟨key_eq_key_iff, ?_, ?_, ?_⟩
  · intro one two hne hclean hkey
    rcases (key_eq_key_iff one two).mp hkey with rfl | hoverlap | hoverlap
    · exact hne rfl
    · rcases hclean with ⟨-, hserver⟩ | ⟨hname, -⟩
      · exact hserver hoverlap.separator_mem.1
      · exact hname hoverlap.separator_mem.2
    · rcases hclean with ⟨hserver, -⟩ | ⟨-, hname⟩
      · exact hserver hoverlap.separator_mem.1
      · exact hname hoverlap.separator_mem.2
  · intro one two hkey store operations hkeys
    have helsewhere : one.key ∉ [two.key] := by simpa using hkey
    have hagree := Store.agreeAt_run_elsewhere helsewhere (.refl [two.key] store) hkeys
    have hlookup := hagree.lookup two.key (by simp)
    refine ⟨hlookup, ?_⟩
    rw [Store.contains_eq_isSome_lookup, Store.contains_eq_isSome_lookup, hlookup]
  · intro one two hkey store rule credential put removed
    have hput := store.lookup_put rule one.key credential
    have hremoved := store.lookup_remove one.key
    rw [hkey] at hput hremoved
    simp only [Store.contains_eq_isSome_lookup]
    simp only [put, removed, hkey, hput, hremoved]
    cases rule.policy store.defaultPolicy <;> simp [Mark.apply]

/-- The share of a server whose name holds a separator takes the entry of another. -/
theorem keys_collide_at_second_separator :
    let one : Share := ⟨"files", "users\\alice"⟩
    let two : Share := ⟨"files\\users", "alice"⟩
    let other : Share := ⟨"files", "alice"⟩
    let credential : Credential := ⟨"alice", "CORP", ⟨"pw1"⟩⟩
    one.key = two.key ∧ one.key ≠ other.key ∧
      (Store.new.perform (.put .replace (.text one.key) credential)).next.lookup two.key =
        some credential ∧
      (Store.new.run [.put .replace (.text one.key) credential]).next.lookup other.key = none := by
  intro one two other credential
  obtain ⟨hcollide, hclean, hapart, hshared⟩ := keys_collide_by_overlap_only
  have hkey : one.key = two.key :=
    (hcollide one two).mpr (.inr (.inl ⟨"users", by decide, by decide⟩))
  have hother : one.key ≠ other.key :=
    hclean one other (by decide) (.inl ⟨by decide, by decide⟩)
  have hput := hshared one two hkey Store.new .replace credential
  have hnone := hapart one other hother Store.new [.put .replace (.text one.key) credential]
    (by simp [Operation.key?])
  exact ⟨hkey, hother, hput.1, hnone.1⟩

end Share
end Keyring
