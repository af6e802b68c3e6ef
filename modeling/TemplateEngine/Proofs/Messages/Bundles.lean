import Mathlib.Data.List.Induction
import TemplateEngine.Message.Render

namespace TemplateEngine

namespace SortedMap

variable {κ α : Type} [Ord κ]

theorem get?_mapValues {β : Type} (f : α → β) (m : SortedMap κ α) (key : κ) :
    (m.mapValues f).get? key = (m.get? key).map f := by
  have mapped (entries : List (κ × α)) :
      lookupKey key (entries.map fun b => (b.1, f b.2)) = (lookupKey key entries).map f := by
    induction entries with
    | nil => rfl
    | cons head rest ih =>
      rw [List.map_cons, lookupKey, lookupKey, ih]
      split <;> rfl
  exact mapped m.toList

theorem ofList_snoc [Std.TransOrd κ] [Std.LawfulEqOrd κ] (pairs : List (κ × α)) (key : κ) (value : α) :
    ofList (pairs ++ [(key, value)]) = (ofList pairs).insert key value := by
  rw [ofList, List.foldl_append, ofList]
  rfl

end SortedMap

theorem MessageId.compare_eq_lt_iff {i j : MessageId} : compare i j = .lt ↔ i < j := by
  rw [show compare i j = compareOfLessAndEq i j from rfl, compareOfLessAndEq]
  split
  next below => simp [below]
  next above => split <;> simp [above]

/-- How a bundle is made: of messages, with a locale for those that have none, and put under other locales later. -/
structure BundleHistory where
  locale : Option String
  messages : List Message
  retags : List String

namespace BundleHistory

variable (history : BundleHistory)

def bundle : MessageBundle :=
  history.retags.foldl MessageBundle.withLocale (.ofMessages history.locale history.messages)

/-- The last message that is given under an identity. -/
def last? (id : MessageId) : Option Message := (history.messages.filter fun m => m.id = id).getLast?

/-- The locale of a message of the bundle: the last one that the bundle is put under, or else its own, or else the one
that the bundle is made with. -/
def effective (m : Message) : Option String := history.retags.getLast?.or (m.locale.or history.locale)

/-- The bundle put under one more locale. -/
def retag (locale : String) : BundleHistory := { history with retags := history.retags ++ [locale] }

theorem bundle_retag (locale : String) : (history.retag locale).bundle = history.bundle.withLocale locale := by
  rw [bundle, retag, List.foldl_append, bundle]
  rfl

theorem effective_retag (locale : String) (m : Message) : (history.retag locale).effective m = some locale := by
  rw [effective, retag, List.getLast?_append, List.getLast?_singleton]
  rfl

end BundleHistory

/-- What is found in the bundle is the last message given, under the locale that counts. -/
theorem MessageBundle.message?_ofMessages (locale : Option String) (messages : List Message) (id : MessageId) :
    (ofMessages locale messages).message? id =
      ((messages.filter fun m => m.id = id).getLast?).map fun m => { m with locale := m.locale.or locale } := by
  induction messages using List.reverseRecOn with
  | nil => rfl
  | append_singleton earlier m ih =>
    have added : (ofMessages locale (earlier ++ [m])).message? id =
        if compare id m.id = .eq then some { m with locale := m.locale.or locale }
        else (ofMessages locale earlier).message? id := by
      rw [message?, ofMessages, List.map_append, List.map_singleton, SortedMap.ofList_snoc, SortedMap.get?_insert]
      rfl
    rw [added, ih, List.filter_append, List.getLast?_append]
    by_cases same : m.id = id
    · subst same
      simp
    · simp [same, Ne.symm same]

theorem MessageBundle.message?_withLocale (bundle : MessageBundle) (locale : String) (id : MessageId) :
    (bundle.withLocale locale).message? id = (bundle.message? id).map fun m => m.withLocale locale :=
  SortedMap.get?_mapValues _ _ id

namespace BundleHistory

theorem message?_bundle (history : BundleHistory) (id : MessageId) :
    history.bundle.message? id = (history.last? id).map fun m => { m with locale := history.effective m } := by
  obtain ⟨locale, messages, retags⟩ := history
  induction retags using List.reverseRecOn with
  | nil => exact MessageBundle.message?_ofMessages locale messages id
  | append_singleton earlier tag ih =>
    have retagged : BundleHistory.mk locale messages (earlier ++ [tag]) =
        (BundleHistory.mk locale messages earlier).retag tag := rfl
    rw [retagged, bundle_retag, MessageBundle.message?_withLocale, ih, Option.map_map]
    refine congrArg (Option.map · _) (funext fun m => ?_)
    rw [Function.comp_apply, Message.withLocale, effective_retag]

theorem last?_eq_some {history : BundleHistory} {id : MessageId} {m : Message} (last : history.last? id = some m) :
    m ∈ history.messages ∧ m.id = id := by
  have member := List.mem_of_getLast? last
  simpa using member

theorem last?_isSome {history : BundleHistory} {id : MessageId} :
    (history.last? id).isSome ↔ ∃ m ∈ history.messages, m.id = id := by
  simp [last?]

/-- The keys of a bundle are the identities of its messages. -/
theorem key_eq {history : BundleHistory} {id : MessageId} {m : Message}
    (member : (id, m) ∈ history.bundle.messages.toList) : m.id = id := by
  have found : history.bundle.message? id = some m := SortedMap.get?_eq_some_iff.mpr member
  rw [message?_bundle] at found
  obtain ⟨m, last, rfl⟩ := Option.map_eq_some_iff.mp found
  exact (last?_eq_some last).2

theorem map_id_toList (history : BundleHistory) :
    history.bundle.toList.map Message.id = history.bundle.messages.keys := by
  rw [MessageBundle.toList, SortedMap.values, SortedMap.keys, List.map_map]
  exact List.map_congr_left fun binding member => key_eq member

/-- A bundle lists the messages given under different identities, in ascending order, each as it is found. -/
structure Lists (history : BundleHistory) : Prop where
  message? : ∀ id, history.bundle.message? id = (history.last? id).map fun m => { m with locale := history.effective m }
  id : ∀ id m, history.bundle.message? id = some m → m.id = id
  sorted : (history.bundle.toList.map Message.id).Pairwise (· < ·)
  given : ∀ id, id ∈ history.bundle.toList.map Message.id ↔ ∃ m ∈ history.messages, m.id = id
  listed : ∀ m, m ∈ history.bundle.toList ↔ history.bundle.message? m.id = some m

theorem lists (history : BundleHistory) : history.Lists := by
  have keys (id : MessageId) : id ∈ history.bundle.messages.keys ↔ (history.bundle.message? id).isSome := by
    rw [← SortedMap.contains_iff]
    rfl
  refine ⟨history.message?_bundle, fun id m found => ?_, ?_, fun id => ?_, fun m => ⟨fun member => ?_, fun found => ?_⟩⟩
  · exact key_eq (SortedMap.get?_eq_some_iff.mp found)
  · rw [map_id_toList, SortedMap.keys]
    exact List.pairwise_map.mpr (history.bundle.messages.sorted.imp MessageId.compare_eq_lt_iff.mp)
  · rw [map_id_toList, keys, message?_bundle, Option.isSome_map, last?_isSome]
  · obtain ⟨⟨id, _⟩, bound, rfl⟩ := List.mem_map.mp member
    obtain rfl := key_eq bound
    exact SortedMap.get?_eq_some_iff.mpr bound
  · exact List.mem_map_of_mem (SortedMap.get?_eq_some_iff.mp found)

end BundleHistory

end TemplateEngine
