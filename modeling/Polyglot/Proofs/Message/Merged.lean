import Polyglot.Proofs.Message.First
import Mathlib.Data.List.Perm.Basic

/-!
# The first of each name, within bundles and across them

The messages of a locale may come in several bundles. They are grouped by locale, put one after the
other and looked up by name, and at each of these steps an earlier message counts more than a later
one. Main statement: `Bundle.mergesFirst_and_keepsFirst`.
-/

namespace Polyglot

section Order

variable {α : Type} [BEq α] [LawfulBEq α]

/-- The things that stand in a row, each once, in the order in which they first stand there. -/
def InOrderOf (things row : List α) : Prop :=
  (∀ thing, thing ∈ things ↔ thing ∈ row) ∧
    things.Pairwise fun a b => row.idxOf a < row.idxOf b

/-- Leaving out other things does not change which of two things stands first. -/
theorem idxOf_lt_of_filter {p : α → Bool} {a b : α} {row : List α} (ha : p a) (hb : p b)
    (h : (row.filter p).idxOf a < (row.filter p).idxOf b) : row.idxOf a < row.idxOf b := by
  induction row with
  | nil => exact h
  | cons c row ih =>
    by_cases hca : c = a
    · subst hca
      rw [List.filter_cons_of_pos ha] at h
      rw [List.idxOf_cons_self] at h ⊢
      have hcb : c ≠ b := by
        rintro rfl
        simp at h
      rw [List.idxOf_cons_ne _ hcb]
      exact Nat.succ_pos _
    · by_cases hcb : c = b
      · subst hcb
        rw [List.filter_cons_of_pos hb, List.idxOf_cons_self] at h
        exact absurd h (Nat.not_lt_zero _)
      · rw [List.idxOf_cons_ne _ hca, List.idxOf_cons_ne _ hcb]
        refine Nat.succ_lt_succ (ih ?_)
        by_cases hc : p c
        · rw [List.filter_cons_of_pos hc, List.idxOf_cons_ne _ hca, List.idxOf_cons_ne _ hcb] at h
          exact Nat.lt_of_succ_lt_succ h
        · rwa [List.filter_cons_of_neg hc] at h

theorem pairwise_eraseDups (row : List α) :
    row.eraseDups.Pairwise fun a b => row.idxOf a < row.idxOf b := by
  match row with
  | [] => exact .nil
  | a :: row =>
    have hne {b : α} (hb : b ∈ (row.filter fun b => !b == a).eraseDups) : a ≠ b := by
      rintro rfl
      simp [List.mem_eraseDups] at hb
    rw [List.eraseDups_cons, List.pairwise_cons]
    constructor
    · intro b hb
      rw [List.idxOf_cons_self, List.idxOf_cons_ne _ (hne hb)]
      exact Nat.succ_pos _
    · refine (pairwise_eraseDups (row.filter fun b => !b == a)).imp_of_mem fun hb hc h => ?_
      rw [List.idxOf_cons_ne _ (hne hb), List.idxOf_cons_ne _ (hne hc)]
      refine Nat.succ_lt_succ (idxOf_lt_of_filter ?_ ?_ h)
      · simpa using (hne hb).symm
      · simpa using (hne hc).symm
termination_by row.length
decreasing_by exact Nat.lt_succ_of_le (List.length_filter_le _ _)

theorem inOrderOf_eraseDups (row : List α) : InOrderOf row.eraseDups row :=
  ⟨fun _ => List.mem_eraseDups, pairwise_eraseDups row⟩

end Order

/-! ### Messages of one list -/

/-- Some messages are kept, and for each of the others there is one warning. -/
def WarnsOfDropped (reported : Option String) (messages kept : List Message)
    (events : List Event) : Prop :=
  ∃ dropped, (kept ++ dropped).Perm messages ∧ dropped.Sublist messages ∧
    (events = dropped.map fun message => .duplicateMessage message.name reported) ∧
    ∀ event ∈ events, event.level = .warning

/-- Of some messages the first of each name are kept, in their order. -/
structure KeepsFirst (reported : Option String) (messages kept : List Message)
    (events : List Event) : Prop where
  names : InOrderOf (kept.map Message.name) (messages.map Message.name)
  found : ∀ name, kept.find? (·.name == name) = messages.find? (·.name == name)
  dropped : WarnsOfDropped reported messages kept events

variable {messages : List Message} {locale : String}

theorem map_name_firstMessages (messages : List Message) :
    (firstMessages [] messages).map Message.name = (messages.map Message.name).eraseDups := by
  rw [firstMessages_eq_firstOfEach, firstOfEach, List.map_filterMap]
  refine (List.filterMap_congr fun key hk => ?_).trans List.filterMap_some
  obtain ⟨message, hm, rfl⟩ := List.mem_map.1 (List.mem_eraseDups.1 hk)
  cases hf : messages.find? fun other => other.name == message.name with
  | none => simpa using List.find?_eq_none.1 hf message hm
  | some found => exact congrArg some (by simpa using List.find?_some hf)

theorem firstMessages_append_repeatedMessages (seen : List String) (messages : List Message) :
    (firstMessages seen messages ++ repeatedMessages seen messages).Perm messages := by
  induction messages generalizing seen with
  | nil => exact .refl _
  | cons message rest ih =>
    rw [firstMessages, repeatedMessages]
    split_ifs
    · exact List.perm_middle.trans ((ih seen).cons message)
    · exact (ih _).cons message

theorem sublist_repeatedMessages (seen : List String) (messages : List Message) :
    (repeatedMessages seen messages).Sublist messages := by
  induction messages generalizing seen with
  | nil => exact .refl _
  | cons message rest ih =>
    rw [repeatedMessages]
    split_ifs
    · exact (ih seen).cons_cons message
    · exact (ih _).cons message

theorem keepsFirst_firstMessages (reported : Option String) (messages : List Message) :
    KeepsFirst reported messages (firstMessages [] messages)
      (duplicateEvents reported messages) where
  names := by
    rw [map_name_firstMessages]
    exact inOrderOf_eraseDups _
  found _ := lookupMessage_firstMessages List.not_mem_nil messages
  dropped := ⟨repeatedMessages [] messages, firstMessages_append_repeatedMessages [] messages,
    sublist_repeatedMessages [] messages, rfl, List.forall_mem_map.2 fun _ _ => rfl⟩

/-- No message of a list without repeated names is dropped. -/
theorem firstMessages_of_nodup {seen : List String} (h : (messages.map Message.name).Nodup)
    (hs : ∀ message ∈ messages, message.name ∉ seen) :
    firstMessages seen messages = messages ∧ repeatedMessages seen messages = [] := by
  induction messages generalizing seen with
  | nil => exact ⟨rfl, rfl⟩
  | cons message rest ih =>
    rw [List.forall_mem_cons] at hs
    rw [List.map_cons, List.nodup_cons] at h
    have hr : ∀ other ∈ rest, other.name ∉ message.name :: seen := by
      intro other ho hm
      rcases List.mem_cons.1 hm with he | hm
      · exact h.1 (he ▸ List.mem_map_of_mem ho)
      · exact hs.2 other ho hm
    obtain ⟨hf, hd⟩ := ih h.2 hr
    rw [firstMessages, repeatedMessages, if_neg hs.1, if_neg hs.1, hf, hd]
    exact ⟨rfl, rfl⟩

/-! ### Bundles -/

namespace Bundle

/-- What a bundle says about itself is what its messages say. -/
structure IsIndexed (bundle : Bundle) : Prop where
  names : bundle.names = bundle.messages.map Message.name
  size : bundle.size = bundle.names.length
  contains : ∀ name, bundle.contains name ↔ name ∈ bundle.names
  get? : bundle.names.map bundle.get? = bundle.messages.map some

/-- A message is found by its name. -/
theorem get?_name {bundle : Bundle} {message : Message} (h : message ∈ bundle.messages) :
    bundle.get? message.name = some message := by
  have hf : message ∈ firstOfEach Message.name bundle.messages := by
    rwa [← firstMessages_eq_firstOfEach,
      (firstMessages_of_nodup bundle.nodup fun _ _ => List.not_mem_nil).1]
  exact mem_firstOfEach.1 hf

theorem isIndexed (bundle : Bundle) : bundle.IsIndexed where
  names := rfl
  size := (List.length_map _).symm
  contains name := by
    rw [contains, get?, lookupMessage, List.find?_isSome, names, List.mem_map]
    simp
  get? := by
    rw [names, List.map_map]
    exact List.map_congr_left fun message h => get?_name h

theorem make_isOk_iff (hl : locale ≠ "") :
    (make locale messages).isOk ↔ (messages.map Message.name).Nodup := by
  rw [make, dif_neg hl]
  split_ifs with hn
  · exact iff_of_true rfl hn
  · exact iff_of_false Bool.false_ne_true hn

theorem make_eq_ok_iff {bundle : Bundle} :
    make locale messages = .ok bundle ↔ bundle.locale = locale ∧ bundle.messages = messages := by
  obtain ⟨l, ms, hl, hn⟩ := bundle
  constructor
  · intro h
    rw [make] at h
    split_ifs at h
    obtain ⟨rfl, rfl⟩ := Bundle.mk.inj (Except.ok.inj h)
    exact ⟨rfl, rfl⟩
  · rintro ⟨rfl, rfl⟩
    rw [make, dif_neg hl, dif_pos hn]

theorem perform_ofMessages (hl : locale ≠ "") (messages : List Message) :
    (ofMessages locale messages).perform =
      (.ok ⟨locale, firstMessages [] messages, hl, nodup_firstMessages [] messages⟩,
        duplicateEvents (some locale) messages) := by
  rw [ofMessages, ofFirst, dif_neg hl]
  rfl

/-- A bundle is the bundle of its own messages, with nothing to report. -/
theorem perform_ofMessages_self (bundle : Bundle) :
    (ofMessages bundle.locale bundle.messages).perform = (.ok bundle, []) := by
  obtain ⟨hf, hd⟩ := firstMessages_of_nodup bundle.nodup fun _ _ => List.not_mem_nil (α := String)
  rw [perform_ofMessages bundle.locale_ne, duplicateEvents]
  simp only [hf, hd]
  rfl

/-! ### Bundles of several locales -/

/-- Of the messages of some bundles the first of each name are kept: they have the names that occur
in the bundles, in the order in which these first occur, and each is that of the first bundle which
has a message of its name. -/
structure MergesFirst (reported : Option String) (bundles : List Bundle) (kept : List Message)
    (events : List Event) : Prop where
  names : InOrderOf (kept.map Message.name) (bundles.flatMap Bundle.names)
  found : ∀ name, kept.find? (·.name == name) = bundles.findSome? (·.get? name)
  dropped : WarnsOfDropped reported (bundles.flatMap Bundle.messages) kept events

variable {bundles : List Bundle} {reported : Option String} {kept : List Message}
  {events : List Event}

theorem MergesFirst.of_keepsFirst
    (h : KeepsFirst reported (bundles.flatMap Bundle.messages) kept events) :
    MergesFirst reported bundles kept events where
  names := by
    have hn := h.names
    rwa [List.map_flatMap] at hn
  found name := by
    rw [h.found, List.find?_flatMap]
    rfl
  dropped := h.dropped

theorem map_fst_byLocale (bundles : List Bundle) :
    (byLocale bundles).map Prod.fst = (bundles.map Bundle.locale).eraseDups := by
  rw [byLocale, List.map_map]
  exact List.map_id _

theorem flatMap_messages_of_locale (bundles : List Bundle) (locale : String) :
    (bundles.flatMap fun bundle => if bundle.locale = locale then bundle.messages else []) =
      (bundles.filter (·.locale = locale)).flatMap Bundle.messages := by
  induction bundles with
  | nil => rfl
  | cons bundle bundles ih =>
    rw [List.flatMap_cons, ih, List.filter_cons]
    by_cases h : bundle.locale = locale <;> simp [h]

theorem lookup_byLocale (h : locale ∈ bundles.map Bundle.locale) :
    (byLocale bundles).lookup locale =
      some ((bundles.filter (·.locale = locale)).flatMap Bundle.messages) := by
  rw [byLocale, List.lookup_graph _ (List.mem_eraseDups.2 h), flatMap_messages_of_locale]

theorem run_messagesByName (reported : Option String) (messages : List Message)
    (before : List Event) :
    StateT.run (messagesByName reported messages) before =
      (firstMessages [] messages, before ++ duplicateEvents reported messages) := rfl

/-- **The first message of each name counts, across bundles and within each.** Bundles are grouped
under their locales in the order of the first bundle of each, and indexing the messages of a locale
keeps those that its bundles have first and reports each of the others once. A bundle of any
messages keeps the first of each name in the same way and finds them by name; messages make a bundle
as they are just where no name is repeated; and the bundle of a bundle's messages is that bundle,
with nothing to report. -/
theorem mergesFirst_and_keepsFirst :
    (∀ bundles : List Bundle,
      InOrderOf ((byLocale bundles).map Prod.fst) (bundles.map Bundle.locale) ∧
      ∀ locale ∈ bundles.map Bundle.locale, ∃ messages,
        (byLocale bundles).lookup locale = some messages ∧
        ∀ reported before, ∃ kept events,
          StateT.run (messagesByName reported messages) before = (kept, before ++ events) ∧
          MergesFirst reported (bundles.filter (·.locale = locale)) kept events) ∧
    (∀ (locale : String) (messages : List Message), locale ≠ "" →
      (∃ bundle events, (ofMessages locale messages).perform = (.ok bundle, events) ∧
        bundle.locale = locale ∧ KeepsFirst (some locale) messages bundle.messages events ∧
        (∀ name, bundle.get? name = messages.find? (·.name == name)) ∧ bundle.IsIndexed) ∧
      ((make locale messages).isOk ↔ (messages.map Message.name).Nodup) ∧
      ∀ bundle, make locale messages = .ok bundle →
        bundle.locale = locale ∧ bundle.messages = messages ∧ bundle.IsIndexed) ∧
    ∀ bundle : Bundle, (ofMessages bundle.locale bundle.messages).perform = (.ok bundle, []) := by
  refine ⟨fun bundles => ⟨?_, fun locale hl => ?_⟩, fun locale messages hl => ⟨?_, ?_, ?_⟩,
    perform_ofMessages_self⟩
  · rw [map_fst_byLocale]
    exact inOrderOf_eraseDups _
  · refine ⟨_, lookup_byLocale hl, fun reported before => ⟨_, _, run_messagesByName .., ?_⟩⟩
    exact .of_keepsFirst (keepsFirst_firstMessages reported _)
  · have hk := keepsFirst_firstMessages (some locale) messages
    exact ⟨_, _, perform_ofMessages hl messages, rfl, hk, hk.found, isIndexed _⟩
  · exact make_isOk_iff hl
  · intro bundle hb
    obtain ⟨hlocale, hm⟩ := make_eq_ok_iff.1 hb
    exact ⟨hlocale, hm, bundle.isIndexed⟩

/-- Bundles of two locales in turn, with a greeting in each of them. -/
def interleaved : List Bundle :=
  [⟨"de", [⟨"greet", [.text "Hallo"], by decide⟩], by decide, by decide⟩,
   ⟨"fr", [⟨"greet", [.text "Salut"], by decide⟩], by decide, by decide⟩,
   ⟨"de", [⟨"leave", [.text "Ade"], by decide⟩, ⟨"greet", [.text "Servus"], by decide⟩],
     by decide, by decide⟩]

theorem mergesFirst_and_keepsFirst_interleaved :
    "de" ∈ interleaved.map Bundle.locale ∧ "de" ≠ "" ∧
    ∃ messages, (byLocale interleaved).lookup "de" = some messages ∧
      (∃ kept events, StateT.run (messagesByName none messages) [] = (kept, events) ∧
        kept.find? (·.name == "greet") = some ⟨"greet", [.text "Hallo"], by decide⟩) ∧
      ∃ bundle events, (ofMessages "de" messages).perform = (.ok bundle, events) ∧
        bundle.get? "greet" = messages.find? (·.name == "greet") := by
  have hm : "de" ∈ interleaved.map Bundle.locale := by decide
  have hl : "de" ≠ "" := by decide
  obtain ⟨messages, hs, hk⟩ := (mergesFirst_and_keepsFirst.1 interleaved).2 "de" hm
  obtain ⟨kept, events, hr, hf⟩ := hk none []
  obtain ⟨bundle, reported, hb, -, -, hg, -⟩ := (mergesFirst_and_keepsFirst.2.1 "de" messages hl).1
  refine ⟨hm, hl, messages, hs, ⟨kept, events, hr, ?_⟩, bundle, reported, hb, hg "greet"⟩
  rw [hf.found]
  decide +kernel

end Bundle

end Polyglot
