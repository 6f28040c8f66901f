import Polyglot.Message.Basic

/-!
# Bundles

The messages of one locale, at most one of each name. `Bundle.ofMessages` keeps the first message of
each name and reports the others; `Bundle.make` refuses a list that repeats a name.
-/

namespace Polyglot

/-! ### The first message of each name -/

/-- The first message of each name that is not among those seen before. -/
def firstMessages : (seen : List String) → List Message → List Message
  | _, [] => []
  | seen, m :: rest =>
    if m.name ∈ seen then firstMessages seen rest
    else m :: firstMessages (m.name :: seen) rest

/-- The messages whose name was seen before. -/
def repeatedMessages : (seen : List String) → List Message → List Message
  | _, [] => []
  | seen, m :: rest =>
    if m.name ∈ seen then m :: repeatedMessages seen rest
    else repeatedMessages (m.name :: seen) rest

theorem not_mem_of_mem_firstMessages {m : Message} {seen : List String} {messages : List Message}
    (h : m ∈ firstMessages seen messages) : m.name ∉ seen := by
  induction messages generalizing seen with
  | nil => simp [firstMessages] at h
  | cons n rest ih =>
    rw [firstMessages] at h
    split at h
    · exact ih h
    · rcases List.mem_cons.1 h with rfl | h
      · assumption
      · exact fun hs => ih h (List.mem_cons_of_mem _ hs)

theorem nodup_firstMessages (seen : List String) (messages : List Message) :
    ((firstMessages seen messages).map Message.name).Nodup := by
  induction messages generalizing seen with
  | nil => simp [firstMessages]
  | cons m rest ih =>
    rw [firstMessages]
    split
    · exact ih seen
    · refine List.nodup_cons.2 ⟨fun h => ?_, ih _⟩
      obtain ⟨n, hn, he⟩ := List.mem_map.1 h
      exact not_mem_of_mem_firstMessages hn (he ▸ List.mem_cons_self)

/-- The first of some messages that has a given name. -/
def lookupMessage (name : String) (messages : List Message) : Option Message :=
  messages.find? (·.name == name)

/-- What is reported about messages that repeat a name. -/
def duplicateEvents (locale : Option String) (messages : List Message) : List Event :=
  (repeatedMessages [] messages).map fun m => .duplicateMessage m.name locale

/-- The messages by name, the first of each name, reporting the others. -/
def messagesByName (locale : Option String) (messages : List Message) :
    Reporting (List Message) := do
  reportAll (duplicateEvents locale messages)
  return firstMessages [] messages

/-! ### Bundles -/

/-- The messages of one locale, no two of the same name. -/
structure Bundle where
  locale : String
  messages : List Message
  locale_ne : locale ≠ ""
  nodup : (messages.map Message.name).Nodup

namespace Bundle

/-- The bundle of some messages as they are. -/
def make (locale : String) (messages : List Message) : Except Failure Bundle :=
  if hl : locale = "" then .error (.value .emptyBundleLocale)
  else if hn : (messages.map Message.name).Nodup then .ok ⟨locale, messages, hl, hn⟩
  else
    let name := ((repeatedMessages [] messages).head?.map Message.name).getD ""
    .error (.value (.duplicateInBundle name locale))

/-- The bundle of the first message of each name. -/
def ofFirst (locale : String) (messages : List Message) : Except Failure Bundle :=
  if h : locale = "" then .error (.value .emptyBundleLocale)
  else .ok ⟨locale, firstMessages [] messages, h, nodup_firstMessages [] messages⟩

/-- The bundle of the first message of each name, reporting the others. -/
def ofMessages (locale : String) (messages : List Message) : Run Bundle := do
  reportAll (duplicateEvents (some locale) messages)
  Run.ofExcept (ofFirst locale messages)

/-- The names of the messages in order. -/
def names (bundle : Bundle) : List String :=
  bundle.messages.map Message.name

/-- The number of messages. -/
def size (bundle : Bundle) : Nat :=
  bundle.messages.length

/-- The message of a given name. -/
def get? (bundle : Bundle) (name : String) : Option Message :=
  lookupMessage name bundle.messages

/-- The bundle has a message of a given name. -/
def contains (bundle : Bundle) (name : String) : Bool :=
  (bundle.get? name).isSome

/-- The locales of some bundles in order of first appearance, each with the messages of all its
bundles. -/
def byLocale (bundles : List Bundle) : List (String × List Message) :=
  (bundles.map Bundle.locale).eraseDups.map fun locale =>
    (locale, bundles.flatMap fun bundle => if bundle.locale = locale then bundle.messages else [])

end Bundle

end Polyglot
