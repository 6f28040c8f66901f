import Polyglot.Message.Bundle
import Mathlib.Data.List.Basic

/-!
# The first of each name

Of several things of one name the first counts. `firstOfEach` says which are left of a list: the
distinct names in order of first occurrence, and the first thing of each. This is what bundles keep.
-/

namespace Polyglot

variable {α β : Type} {name : α → String}

/-- The first of some things of each name, in the order in which the names first occur. -/
def firstOfEach (name : α → String) (things : List α) : List α :=
  (things.map name).eraseDups.filterMap fun key => things.find? fun thing => name thing == key

theorem firstOfEach_map (f : β → α) (things : List β) :
    firstOfEach name (things.map f) = (firstOfEach (fun thing => name (f thing)) things).map f := by
  simp only [firstOfEach, List.map_map, List.map_filterMap, List.find?_map]
  rfl

theorem mem_of_mem_firstOfEach {thing : α} {things : List α}
    (h : thing ∈ firstOfEach name things) : thing ∈ things := by
  obtain ⟨key, -, hk⟩ := List.mem_filterMap.1 h
  exact List.mem_of_find?_eq_some hk

theorem mem_firstOfEach {thing : α} {things : List α} :
    thing ∈ firstOfEach name things ↔
      things.find? (fun other => name other == name thing) = some thing := by
  constructor
  · intro h
    obtain ⟨key, -, hk⟩ := List.mem_filterMap.1 h
    obtain rfl : name thing = key := by simpa using List.find?_some hk
    exact hk
  · intro h
    refine List.mem_filterMap.2 ⟨name thing, List.mem_eraseDups.2 ?_, h⟩
    exact List.mem_map_of_mem (List.mem_of_find?_eq_some h)

theorem name_of_lookupMessage {key : String} {messages : List Message} {message : Message}
    (h : lookupMessage key messages = some message) : message.name = key := by
  simpa using List.find?_some h

theorem lookupMessage_eq_none_iff {key : String} {messages : List Message} :
    lookupMessage key messages = none ↔ ∀ message ∈ messages, message.name ≠ key := by
  simp [lookupMessage]

theorem lookupMessage_cons_ne {key : String} {message : Message} {messages : List Message}
    (h : message.name ≠ key) :
    lookupMessage key (message :: messages) = lookupMessage key messages := by
  simp [lookupMessage, h]

theorem lookupMessage_cons_self (message : Message) (messages : List Message) :
    lookupMessage message.name (message :: messages) = some message := by
  simp [lookupMessage]

/-- The first messages besides those of names that were seen. -/
theorem firstMessages_eq (seen : List String) (messages : List Message) :
    firstMessages seen messages =
      (((messages.map Message.name).filter (· ∉ seen)).eraseDups).filterMap
        fun key => lookupMessage key messages := by
  induction messages generalizing seen with
  | nil => rfl
  | cons message rest ih =>
    rw [firstMessages, List.map_cons, List.filter_cons]
    by_cases hs : message.name ∈ seen
    · rw [if_pos hs, if_neg (by simpa using hs), ih seen]
      refine List.filterMap_congr fun key hk => (lookupMessage_cons_ne ?_).symm
      rw [List.mem_eraseDups, List.mem_filter] at hk
      rintro rfl
      simp [hs] at hk
    · rw [if_neg hs, if_pos (by simpa using hs), ih, List.eraseDups_cons, List.filterMap_cons,
        lookupMessage_cons_self, List.filter_filter]
      have hf : (fun key => !key == message.name && decide (key ∉ seen)) =
          fun key => decide (key ∉ message.name :: seen) := by
        funext key
        by_cases hk : key = message.name <;> simp [hk]
      rw [hf]
      refine congrArg (message :: ·) (List.filterMap_congr fun key hk => ?_)
      refine (lookupMessage_cons_ne ?_).symm
      rw [List.mem_eraseDups, List.mem_filter] at hk
      rintro rfl
      simp at hk

theorem firstMessages_eq_firstOfEach (messages : List Message) :
    firstMessages [] messages = firstOfEach Message.name messages := by
  have ht : (messages.map Message.name).filter (· ∉ []) = messages.map Message.name := by simp
  rw [firstMessages_eq, ht]
  rfl

theorem lookupMessage_firstMessages {key : String} {seen : List String} (hk : key ∉ seen)
    (messages : List Message) :
    lookupMessage key (firstMessages seen messages) = lookupMessage key messages := by
  induction messages generalizing seen with
  | nil => rfl
  | cons message rest ih =>
    rw [firstMessages]
    by_cases hn : message.name = key
    · subst hn
      rw [if_neg hk, lookupMessage_cons_self, lookupMessage_cons_self]
    · rw [lookupMessage_cons_ne hn]
      split_ifs with hs
      · exact ih hk
      · rw [lookupMessage_cons_ne hn]
        exact ih (by simp [hk, Ne.symm hn])

theorem firstMessages_cons_seen {key : String} {seen : List String} {messages : List Message}
    (h : ∀ message ∈ messages, message.name ≠ key) :
    firstMessages (key :: seen) messages = firstMessages seen messages := by
  induction messages generalizing seen with
  | nil => rfl
  | cons message rest ih =>
    rw [List.forall_mem_cons] at h
    rw [firstMessages, firstMessages]
    simp only [List.mem_cons, h.1, false_or]
    split_ifs
    · exact ih h.2
    · have hp : firstMessages (message.name :: key :: seen) rest =
          firstMessages (key :: message.name :: seen) rest := by
        rw [firstMessages_eq, firstMessages_eq]
        simp only [List.mem_cons, or_left_comm]
      rw [hp, ih h.2]

/-- The first messages of those that a function finds for some names are those that it finds for the
distinct names. -/
theorem firstMessages_filterMap {find : String → Option Message}
    (h : ∀ key message, find key = some message → message.name = key) (seen keys : List String) :
    firstMessages seen (keys.filterMap find) =
      (keys.filter (· ∉ seen)).eraseDups.filterMap find := by
  induction keys generalizing seen with
  | nil => rfl
  | cons key keys ih =>
    have hn : ((key :: keys).filter (· ∉ seen)).eraseDups.filterMap find =
        if key ∈ seen then (keys.filter (· ∉ seen)).eraseDups.filterMap find
        else (find key).toList ++
          (keys.filter (· ∉ key :: seen)).eraseDups.filterMap find := by
      have hf : (fun other => !other == key && decide (other ∉ seen)) =
          fun other => decide (other ∉ key :: seen) := by
        funext other
        by_cases hk : other = key <;> simp [hk]
      split_ifs with hs
      · rw [List.filter_cons_of_neg (by simpa using hs)]
      · rw [List.filter_cons_of_pos (by simpa using hs), List.eraseDups_cons, List.filter_filter,
          hf]
        cases hk : find key <;> simp [hk]
    -- both sides by induction, with the names that were seen before and with this one as well
    rw [hn, ← ih, ← ih]
    cases hk : find key with
    | none =>
      have hne : ∀ message ∈ keys.filterMap find, message.name ≠ key := by
        rintro message hm rfl
        obtain ⟨other, -, ho⟩ := List.mem_filterMap.1 hm
        rw [h other message ho] at hk
        rw [hk] at ho
        cases ho
      rw [List.filterMap_cons_none hk, firstMessages_cons_seen hne]
      simp
    | some message =>
      rw [List.filterMap_cons_some hk, firstMessages, h key message hk]
      rfl

/-- Of what a function finds for some names, looking a name up finds what the function does. -/
theorem lookupMessage_filterMap {find : String → Option Message}
    (h : ∀ key message, find key = some message → message.name = key) {keys : List String}
    {key : String} (hk : key ∈ keys) : lookupMessage key (keys.filterMap find) = find key := by
  cases hl : lookupMessage key (keys.filterMap find) with
  | some found =>
    obtain ⟨other, -, ho⟩ := List.mem_filterMap.1 (List.mem_of_find?_eq_some hl)
    have he : other = key := (h other found ho).symm.trans (name_of_lookupMessage hl)
    rw [← he, ho]
  | none =>
    symm
    rw [Option.eq_none_iff_forall_ne_some]
    intro message hm
    have hn := List.find?_eq_none.1 hl message (List.mem_filterMap.2 ⟨key, hk, hm⟩)
    exact hn (beq_iff_eq.2 (h key message hm))

/-! ### Bundles -/

theorem Bundle.ofFirst_eq_ok_iff {locale : String} {messages : List Message} {bundle : Bundle} :
    Bundle.ofFirst locale messages = .ok bundle ↔
      bundle.locale = locale ∧ bundle.messages = firstOfEach Message.name messages := by
  rw [← firstMessages_eq_firstOfEach]
  by_cases h : locale = ""
  · rw [Bundle.ofFirst, dif_pos h]
    exact ⟨nofun, fun hb => absurd (hb.1.trans h) bundle.locale_ne⟩
  · rw [Bundle.ofFirst, dif_neg h]
    obtain ⟨l, ms, hl, hn⟩ := bundle
    constructor
    · rintro ⟨⟩
      exact ⟨rfl, rfl⟩
    · rintro ⟨rfl, rfl⟩
      rfl

theorem Bundle.exists_of_messages {locale : String} (h : locale ≠ "") (messages : List Message) :
    ∃ bundle : Bundle, bundle.locale = locale ∧
      bundle.messages = firstOfEach Message.name messages :=
  ⟨⟨locale, firstMessages [] messages, h, nodup_firstMessages [] messages⟩, rfl,
    firstMessages_eq_firstOfEach messages⟩

end Polyglot
