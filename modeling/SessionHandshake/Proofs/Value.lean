import SessionHandshake.Value.Extent

namespace SessionHandshake

/-!
# Values that can be shown

A value can be shown unless some whole number inside it is too long.  What is
inside a collection is inside one of its members, so a collection can be shown
if all its members can, and building a mapping entry by entry keeps that.
-/

namespace Value

theorem isText_iff {value : Value} :
    value.isText = true ↔ ∃ content, value = .text content := by
  constructor
  · intro isText
    cases value with
    | text content =>
        exact ⟨content, rfl⟩
    | _ =>
        cases isText
  · rintro ⟨content, rfl⟩
    rfl

/-- No whole number inside a value is too long. -/
def IsShowable (value : Value) : Prop :=
  ∀ part ∈ value.parts, part.isTooLong = false

/-- The names and the values of all entries can be shown. -/
def AreShowable (entries : List (Value × Value)) : Prop :=
  ∀ entry ∈ entries, entry.1.IsShowable ∧ entry.2.IsShowable

theorem IsShowable.checkShown {value : Value} (showable : value.IsShowable) :
    value.checkShown = .ok () := by
  unfold Value.checkShown
  rw [if_neg]
  intro tooLong
  obtain ⟨part, member, isTooLong⟩ := List.any_eq_true.mp tooLong
  rw [showable part member] at isTooLong
  cases isTooLong

/-- A value with a whole number inside it that is too long is at fault itself. -/
theorem checkShown_of_not_isShowable {value : Value} (notShowable : ¬ value.IsShowable) :
    value.checkShown = .error (.badValue .unspecified) := by
  unfold Value.checkShown
  rw [if_pos]
  refine Bool.not_eq_false _ ▸ fun noneTooLong => notShowable fun part member => ?_
  exact Bool.eq_false_iff.mpr (List.any_eq_false.mp noneTooLong part member)

theorem mem_partsOfItems {part : Value} {items : List Value} :
    part ∈ partsOfItems items ↔ ∃ item ∈ items, part ∈ item.parts := by
  induction items with
  | nil =>
      simp [partsOfItems]
  | cons first rest inductionHypothesis =>
      simp [partsOfItems, inductionHypothesis]

theorem mem_partsOfEntries {part : Value} {entries : List (Value × Value)} :
    part ∈ partsOfEntries entries ↔
      ∃ entry ∈ entries, part ∈ entry.1.parts ∨ part ∈ entry.2.parts := by
  induction entries with
  | nil =>
      simp [partsOfEntries]
  | cons first rest inductionHypothesis =>
      simp [partsOfEntries, inductionHypothesis, or_assoc]

theorem isShowable_text (content : Text) : (text content).IsShowable := by
  intro part member
  rw [List.mem_singleton.mp member]
  rfl

theorem isShowable_list {items : List Value} (showable : ∀ item ∈ items, item.IsShowable) :
    (list items).IsShowable := by
  intro part member
  rcases List.mem_cons.mp member with rfl | inside
  · rfl
  · obtain ⟨item, isItem, isPart⟩ := mem_partsOfItems.mp inside
    exact showable item isItem part isPart

theorem isShowable_mapping {entries : List (Value × Value)} :
    (mapping entries).IsShowable ↔ AreShowable entries := by
  constructor
  · intro showable entry isEntry
    constructor
    · intro part isPart
      exact showable part
        (List.mem_cons_of_mem _ (mem_partsOfEntries.mpr ⟨entry, isEntry, .inl isPart⟩))
    · intro part isPart
      exact showable part
        (List.mem_cons_of_mem _ (mem_partsOfEntries.mpr ⟨entry, isEntry, .inr isPart⟩))
  · intro showable part member
    rcases List.mem_cons.mp member with rfl | inside
    · rfl
    · obtain ⟨entry, isEntry, isKey | isValue⟩ := mem_partsOfEntries.mp inside
      · exact (showable entry isEntry).1 part isKey
      · exact (showable entry isEntry).2 part isValue

theorem AreShowable.insert
    {key value : Value}
    {entries : List (Value × Value)}
    (showable : AreShowable entries)
    (keyShowable : key.IsShowable)
    (valueShowable : value.IsShowable) :
    AreShowable (insert key value entries) := by
  induction entries with
  | nil =>
      intro entry member
      rw [List.mem_singleton.mp member]
      exact ⟨keyShowable, valueShowable⟩
  | cons first rest inductionHypothesis =>
      obtain ⟨other, old⟩ := first
      have firstShowable := showable (other, old) List.mem_cons_self
      have restShowable : AreShowable rest :=
        fun entry member => showable entry (List.mem_cons_of_mem _ member)
      intro entry member
      unfold Value.insert at member
      split at member
      · rcases List.mem_cons.mp member with rfl | isRest
        · exact ⟨firstShowable.1, valueShowable⟩
        · exact restShowable entry isRest
      · rcases List.mem_cons.mp member with rfl | isRest
        · exact firstShowable
        · exact inductionHypothesis restShowable entry isRest

theorem AreShowable.insertAll {entries : List (Value × Value)} (showable : AreShowable entries) :
    AreShowable (insertAll entries) := by
  suffices extends_built :
      ∀ built,
        AreShowable built →
        AreShowable
          (entries.foldl (fun built entry => Value.insert entry.1 entry.2 built) built) from
    extends_built [] fun entry member => nomatch member
  induction entries with
  | nil =>
      exact fun built builtShowable => builtShowable
  | cons first rest inductionHypothesis =>
      intro built builtShowable
      obtain ⟨keyShowable, valueShowable⟩ := showable first List.mem_cons_self
      exact inductionHypothesis
        (fun entry member => showable entry (List.mem_cons_of_mem _ member))
        (Value.insert first.1 first.2 built)
        (builtShowable.insert keyShowable valueShowable)

/-- A value that is found under a key belongs to an entry. -/
theorem exists_mem_of_find? {key value : Value} {entries : List (Value × Value)}
    (found : find? key entries = some value) :
    ∃ other, (other, value) ∈ entries := by
  induction entries with
  | nil =>
      cases found
  | cons first rest inductionHypothesis =>
      obtain ⟨other, old⟩ := first
      unfold find? at found
      split at found
      · cases found
        exact ⟨other, List.mem_cons_self⟩
      · obtain ⟨name, member⟩ := inductionHypothesis found
        exact ⟨name, List.mem_cons_of_mem _ member⟩

theorem AreShowable.of_find?
    {key value : Value}
    {entries : List (Value × Value)}
    (showable : AreShowable entries)
    (found : find? key entries = some value) :
    value.IsShowable := by
  obtain ⟨other, member⟩ := exists_mem_of_find? found
  exact (showable (other, value) member).2

end Value

end SessionHandshake
