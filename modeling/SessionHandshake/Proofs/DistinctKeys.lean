import SessionHandshake.Proofs.Outcome
import SessionHandshake.Yaml.Document

namespace SessionHandshake

/-!
# The keys of a mapping that is read

An entry of a mapping is set in place if its key is there already.  So no key of a mapping
that is read from a document is the same as one before it, and what is found under the key
of an entry is the value of that entry.
-/

namespace Value

/-- Entries of a mapping: their keys may be keys, and none is the same as one before it. -/
structure AreEntries (entries : List (Value × Value)) : Prop where
  hashable : ∀ entry ∈ entries, entry.1.isHashable = true
  distinct : entries.Pairwise fun earlier later => same later.1 earlier.1 = false

theorem exists_of_find?
    {key value : Value}
    {entries : List (Value × Value)}
    (found : find? key entries = some value) :
    ∃ other, (other, value) ∈ entries ∧ same key other = true := by
  induction entries with
  | nil =>
      cases found
  | cons first rest inductionHypothesis =>
      obtain ⟨other, old⟩ := first
      rw [find?] at found
      split at found
      · next isSame =>
          cases found
          exact ⟨other, List.mem_cons_self, isSame⟩
      · obtain ⟨another, member, isSame⟩ := inductionHypothesis found
        exact ⟨another, List.mem_cons_of_mem _ member, isSame⟩

theorem find?_eq_none_iff {key : Value} {entries : List (Value × Value)} :
    find? key entries = none ↔ ∀ entry ∈ entries, same key entry.1 = false := by
  induction entries with
  | nil =>
      exact iff_of_true rfl (List.forall_mem_nil _)
  | cons first rest inductionHypothesis =>
      rw [find?, List.forall_mem_cons]
      cases isSame : same key first.1 with
      | true =>
          exact iff_of_false (Option.some_ne_none _) fun absent => absurd absent.1 (by decide)
      | false =>
          rw [if_neg Bool.false_ne_true, inductionHypothesis]
          exact (and_iff_right rfl).symm

/-- What is found under the key of an entry is the value of that entry. -/
theorem find?_of_mem
    {key value : Value}
    {entries : List (Value × Value)}
    (distinct : entries.Pairwise fun earlier later => same later.1 earlier.1 = false)
    (isSame : same key key = true)
    (member : (key, value) ∈ entries) :
    find? key entries = some value := by
  induction entries with
  | nil =>
      cases member
  | cons first rest inductionHypothesis =>
      obtain ⟨fromFirst, restDistinct⟩ := List.pairwise_cons.mp distinct
      rw [find?]
      rcases List.mem_cons.mp member with rfl | isLater
      · rw [if_pos isSame]
      · rw [fromFirst _ isLater, if_neg Bool.false_ne_true]
        exact inductionHypothesis restDistinct isLater

end Value

namespace Yaml

/-! ## Keys -/

namespace Object

/-- An object that may be a key is a value by itself. -/
def isKey : Object → Bool
  | .atom value _ =>
      value.isHashable
  | .collection _ =>
      false

/-- Objects that may be keys, none of them the same key as one before it. -/
structure AreKeys (keys : List Object) : Prop where
  mayBeKeys : ∀ key ∈ keys, key.isKey = true
  distinct : keys.Pairwise fun earlier later => sameKey later earlier = false

/-- Setting an entry leaves the keys as they are, or puts a new one behind them. -/
theorem insert_keys (key value : Object) (entries : List (Object × Object)) :
    (insert key value entries).map Prod.fst = entries.map Prod.fst ∨
      (insert key value entries).map Prod.fst = entries.map Prod.fst ++ [key] ∧
        ∀ other ∈ entries.map Prod.fst, sameKey key other = false := by
  induction entries with
  | nil =>
      exact .inr ⟨rfl, List.forall_mem_nil _⟩
  | cons first rest inductionHypothesis =>
      obtain ⟨other, old⟩ := first
      rw [insert]
      split
      · exact .inl rfl
      · next notSame =>
          rcases inductionHypothesis with unchanged | ⟨appended, differs⟩
          · exact .inl (congrArg (other :: ·) unchanged)
          · exact .inr ⟨congrArg (other :: ·) appended,
              List.forall_mem_cons.mpr ⟨Bool.eq_false_iff.mpr notSame, differs⟩⟩

theorem AreKeys.insert
    {key : Object}
    {entries : List (Object × Object)}
    (areKeys : AreKeys (entries.map Prod.fst))
    (isKey : key.isKey = true)
    (value : Object) :
    AreKeys ((Object.insert key value entries).map Prod.fst) := by
  rcases insert_keys key value entries with unchanged | ⟨appended, differs⟩
  · rwa [unchanged]
  · rw [appended]
    exact {
      mayBeKeys := List.forall_mem_append.mpr
        ⟨areKeys.mayBeKeys, List.forall_mem_singleton.mpr isKey⟩
      distinct := List.pairwise_append.mpr
        ⟨areKeys.distinct, List.pairwise_singleton _ _, fun other member last isLast => by
          rw [List.mem_singleton.mp isLast]
          exact differs other member⟩ }

theorem value_isHashable
    {key : Object}
    (isKey : key.isKey = true)
    (workshop : Workshop) :
    (workshop.value key).isHashable = true := by
  cases key with
  | atom value origin =>
      exact isKey
  | collection place =>
      cases isKey

/-- Keys that are different as objects have different values. -/
theorem same_value_eq_false
    {left right : Object}
    (leftIsKey : left.isKey = true)
    (rightIsKey : right.isKey = true)
    (differ : sameKey left right = false)
    (workshop : Workshop) :
    Value.same (workshop.value left) (workshop.value right) = false := by
  cases left with
  | collection place =>
      cases leftIsKey
  | atom leftValue leftOrigin =>
      cases right with
      | collection place =>
          cases rightIsKey
      | atom rightValue rightOrigin =>
          exact (Bool.or_eq_false_iff.mp differ).1

/-- What keys and their values stand for are the entries of a mapping. -/
theorem AreKeys.areEntries
    {entries : List (Object × Object)}
    (areKeys : AreKeys (entries.map Prod.fst))
    (workshop : Workshop) :
    Value.AreEntries
      (entries.map fun entry => (workshop.value entry.1, workshop.value entry.2)) := by
  have isKey : ∀ entry ∈ entries, entry.1.isKey = true := fun entry member =>
    areKeys.mayBeKeys entry.1 (List.mem_map_of_mem member)
  have distinct := List.pairwise_map.mp areKeys.distinct
  exact {
    hashable := List.forall_mem_map.mpr fun entry member =>
      value_isHashable (isKey entry member) workshop
    distinct := List.pairwise_map.mpr <|
      distinct.imp_of_mem fun {earlier later} isEarlier isLater differ =>
        same_value_eq_false (isKey later isLater) (isKey earlier isEarlier) differ workshop }

end Object

/-! ## What is known of a document while it is read -/

theorem mem_of_lookup
    {Known : Type}
    {entries : List (Place × Known)}
    {place : Place}
    {known : Known}
    (found : entries.lookup place = some known) :
    (place, known) ∈ entries := by
  obtain ⟨_, _, rfl, _⟩ := List.lookup_eq_some_iff.mp found
  exact List.mem_append_right _ List.mem_cons_self

/-- If a mapping is held, its entries have keys. -/
def Holding.HasKeys : Holding → Prop
  | .mapping entries =>
      Object.AreKeys (entries.map Prod.fst)
  | _ =>
      True

/-- An object that is a value by itself may be a key. -/
def Object.IsPlain : Object → Prop
  | .atom value _ =>
      value.isHashable = true
  | .collection _ =>
      True

/-- What holds of the known objects and of what collections hold at any time. -/
structure Workshop.IsSound (workshop : Workshop) : Prop where
  known : ∀ entry ∈ workshop.known, entry.2.IsPlain
  holdings : ∀ entry ∈ workshop.holdings, entry.2.HasKeys

/-- What a scalar writes may be a key. -/
theorem scalarValue_isHashable {tag : Tag} {content : Text} {value : Value}
    (isWritten : scalarValue tag content = .ok value) :
    value.isHashable = true := by
  cases tag with
  | null =>
      cases isWritten
      rfl
  | bool =>
      simp only [scalarValue, boolValue] at isWritten
      split at isWritten
      · cases isWritten
        rfl
      · split at isWritten <;> cases isWritten
        rfl
  | int =>
      simp only [scalarValue, intValue, bind_eq_ok_iff, pure_eq_ok_iff] at isWritten
      obtain ⟨_, _, _, _, rfl⟩ := isWritten
      rfl
  | float =>
      simp only [scalarValue, floatValue, bind_eq_ok_iff, pure_eq_ok_iff] at isWritten
      obtain ⟨_, _, _, _, rfl⟩ := isWritten
      rfl
  | binary =>
      simp only [scalarValue, binaryValue] at isWritten
      split at isWritten
      · split at isWritten
        · cases isWritten
          rfl
        · cases isWritten
      · cases isWritten
  | timestamp =>
      simp only [scalarValue, timestampValue] at isWritten
      split at isWritten
      · next timestamp _ =>
          cases isMoment : timestamp.toMoment with
          | error fault =>
              rw [isMoment] at isWritten
              cases isWritten
          | ok moment =>
              rw [isMoment] at isWritten
              cases isWritten
              rfl
      · cases isWritten
  | text =>
      cases isWritten
      rfl
  | _ =>
      cases isWritten

theorem Graph.atomAt_isPlain
    {graph : Graph}
    {place : Place}
    {object : Object}
    (isWritten : graph.atomAt place = .ok object) :
    object.IsPlain := by
  simp only [Graph.atomAt] at isWritten
  split at isWritten
  · cases isWritten
  · obtain ⟨text, _, isWritten⟩ := bind_eq_ok_iff.mp isWritten
    split at isWritten
    · cases isWritten
    · obtain ⟨value, isValue, isObject⟩ := bind_eq_ok_iff.mp isWritten
      cases isObject
      exact scalarValue_isHashable isValue

/-! ## Reading what nodes write -/

/--
An action that succeeds leaves what is known of a document sound, and its result has a
property.
-/
def Building.Yields {Result : Type} (action : Building Result) (property : Result → Prop) : Prop :=
  ∀ start result finish,
    start.IsSound →
    action.run start = .ok (result, finish) →
    finish.IsSound ∧ property result

namespace Building.Yields

variable
  {Result Next Item : Type}
  {property : Result → Prop}
  {nextProperty : Next → Prop}

theorem pure {result : Result} (holds : property result) :
    Yields (Pure.pure result) property := by
  rintro start _ _ isSound ⟨⟩
  exact ⟨isSound, holds⟩

theorem throw (fault : Fault) : Yields (MonadExcept.throw fault) property := by
  rintro _ _ _ _ ⟨⟩

theorem bind
    {first : Building Result}
    {next : Result → Building Next}
    (firstYields : Yields first property)
    (nextYields : ∀ result, property result → Yields (next result) nextProperty) :
    Yields (first >>= next) nextProperty := by
  intro start result finish isSound succeeded
  rw [StateT.run_bind] at succeeded
  obtain ⟨⟨between, middle⟩, isFirst, isNext⟩ := bind_eq_ok_iff.mp succeeded
  obtain ⟨middleIsSound, holds⟩ := firstYields start between middle isSound isFirst
  exact nextYields between holds middle result finish middleIsSound isNext

theorem mono
    {weaker : Result → Prop}
    {action : Building Result}
    (yields : Yields action property)
    (implies : ∀ result, property result → weaker result) :
    Yields action weaker := by
  intro start result finish isSound succeeded
  exact (yields start result finish isSound succeeded).imp_right (implies result)

theorem get : Yields MonadState.get Workshop.IsSound := by
  rintro start _ _ isSound ⟨⟩
  exact ⟨isSound, isSound⟩

theorem set {workshop : Workshop} (isSound : workshop.IsSound) :
    Yields (MonadStateOf.set workshop) fun _ => True := by
  rintro start _ _ _ ⟨⟩
  exact ⟨isSound, trivial⟩

theorem change {update : Workshop → Workshop}
    (keeps : ∀ workshop, workshop.IsSound → (update workshop).IsSound) :
    Yields (modify update) fun _ => True := by
  rintro start _ _ isSound ⟨⟩
  exact ⟨keeps start isSound, trivial⟩

theorem lift (outcome : Except Fault Result) :
    Yields (liftM outcome) fun result => outcome = .ok result := by
  intro start result finish isSound succeeded
  cases outcome with
  | error fault =>
      cases succeeded
  | ok given =>
      cases succeeded
      exact ⟨isSound, rfl⟩

/-! ### Lists -/

theorem mapM {action : Item → Building Result}
    (yields : ∀ item, Yields (action item) fun _ => True) (items : List Item) :
    Yields (items.mapM action) fun _ => True := by
  induction items with
  | nil =>
      exact pure trivial
  | cons first rest inductionHypothesis =>
      rw [List.mapM_cons]
      exact (yields first).bind fun _ _ => inductionHypothesis.bind fun _ _ => pure trivial

theorem forM {action : Item → Building Unit}
    (yields : ∀ item, Yields (action item) fun _ => True) (items : List Item) :
    Yields (items.forM action) fun _ => True := by
  induction items with
  | nil =>
      exact pure trivial
  | cons first rest inductionHypothesis =>
      exact (yields first).bind fun _ _ => inductionHypothesis

theorem foldlM {step : Result → Item → Building Result}
    (yields : ∀ total, property total → ∀ item, Yields (step total item) property)
    (items : List Item) {total : Result} (holds : property total) :
    Yields (items.foldlM step total) property := by
  induction items generalizing total with
  | nil =>
      exact pure holds
  | cons first rest inductionHypothesis =>
      rw [List.foldlM_cons]
      exact (yields total holds first).bind fun _ => inductionHypothesis

end Building.Yields

namespace Building

theorem objectAt_yields (place : Place) : Yields (objectAt place) Object.IsPlain := by
  refine Yields.get.bind fun workshop isSound => ?_
  split
  · next object isKnown =>
      exact Yields.pure (isSound.known _ (mem_of_lookup isKnown))
  · split
    · refine (Yields.set ?_).bind fun _ _ => Yields.pure trivial
      exact { isSound with known := List.forall_mem_cons.mpr ⟨trivial, isSound.known⟩ }
    · refine (Yields.lift _).bind fun object isWritten => ?_
      have isPlain : object.IsPlain := Graph.atomAt_isPlain isWritten
      refine (Yields.set ?_).bind fun _ _ => Yields.pure isPlain
      exact { isSound with known := List.forall_mem_cons.mpr ⟨isPlain, isSound.known⟩ }

theorem contentAt_yields (place : Place) : Yields (contentAt place) fun _ => True :=
  Yields.get.bind fun _ _ => Yields.pure trivial

theorem itemsAt_yields (place : Place) : Yields (itemsAt place) fun _ => True := by
  refine (contentAt_yields place).bind fun content _ => ?_
  split
  · exact Yields.pure trivial
  · exact Yields.throw _

theorem pairAt_yields (place : Place) : Yields (pairAt place) fun _ => True := by
  refine Yields.get.bind fun workshop _ => ?_
  split
  · next key value _ =>
      exact (objectAt_yields key).bind fun _ _ =>
        (objectAt_yields value).bind fun _ _ => Yields.pure trivial
  · exact Yields.throw _

/-- The keys of the entries of a mapping are different. -/
theorem entriesAt_yields (place : Place) :
    Yields (entriesAt place) fun entries => Object.AreKeys (entries.map Prod.fst) := by
  refine (contentAt_yields place).bind fun content _ => ?_
  split
  · refine Yields.get.bind fun workshop _ => (Yields.lift _).bind fun graph _ => ?_
    refine Yields.bind (Yields.change ?_) fun _ _ => ?_
    · exact fun _ isSound => ⟨isSound.known, isSound.holdings⟩
    refine Yields.foldlM (fun entries areKeys entry => ?_) _ ⟨List.forall_mem_nil _, .nil⟩
    refine (objectAt_yields entry.1).bind fun key isPlain => ?_
    cases key with
    | collection _ =>
        exact Yields.throw _
    | atom keyValue origin =>
        have isKey : (Object.atom keyValue origin).isKey = true := isPlain
        exact (objectAt_yields entry.2).bind fun value _ => Yields.pure (areKeys.insert isKey value)
  · exact Yields.throw _

theorem hold_yields {place : Place} {holding : Holding} (hasKeys : holding.HasKeys) :
    Yields (hold place holding) fun _ => True :=
  Yields.change fun _ isSound =>
    { isSound with holdings := List.forall_mem_cons.mpr ⟨hasKeys, isSound.holdings⟩ }

theorem fill_yields (place : Place) : Yields (fill place) fun _ => True := by
  refine Yields.get.bind fun workshop _ => ?_
  split
  · exact (itemsAt_yields place).bind fun items _ =>
      (Yields.mapM (fun item => (objectAt_yields item).mono fun _ _ => trivial) items).bind
        fun _ _ => hold_yields trivial
  · exact (entriesAt_yields place).bind fun _ areKeys => hold_yields areKeys
  · exact (entriesAt_yields place).bind fun _ _ => hold_yields trivial
  · exact (itemsAt_yields place).bind fun items _ =>
      (Yields.mapM pairAt_yields items).bind fun _ _ => hold_yields trivial

theorem fillAll_yields (fuel : Nat) : Yields (fillAll fuel) fun _ => True := by
  induction fuel with
  | zero =>
      exact Yields.pure trivial
  | succ fuel inductionHypothesis =>
      refine Yields.get.bind fun workshop _ => ?_
      split
      · exact Yields.pure trivial
      · refine Yields.bind (Yields.change ?_) fun _ _ =>
          (Yields.forM fill_yields _).bind fun _ _ => inductionHypothesis
        exact fun _ isSound => ⟨isSound.known, isSound.holdings⟩

end Building

theorem Graph.build_isSound
    {graph : Graph}
    {root : Place}
    {workshop : Workshop}
    {object : Object}
    (isBuilt : graph.build root = .ok (workshop, object)) :
    workshop.IsSound ∧ object.IsPlain := by
  obtain ⟨⟨built, finish⟩, succeeded, same⟩ := bind_eq_ok_iff.mp isBuilt
  cases same
  refine Building.Yields.bind (Building.objectAt_yields root) (fun object isPlain =>
    (Building.fillAll_yields _).bind fun _ _ => Building.Yields.pure isPlain) _ _ _ ?_ succeeded
  exact ⟨List.forall_mem_nil _, List.forall_mem_nil _⟩

/-! ## The document -/

theorem Workshop.IsSound.holdingAt
    {workshop : Workshop}
    (isSound : workshop.IsSound)
    (place : Place) :
    (workshop.holdingAt place).HasKeys := by
  rw [Workshop.holdingAt]
  cases isHeld : workshop.holdings.lookup place with
  | none =>
      trivial
  | some holding =>
      exact isSound.holdings _ (mem_of_lookup isHeld)

theorem Workshop.rootValue_areEntries
    {workshop : Workshop}
    {root : Object}
    {entries : List (Value × Value)}
    (isSound : workshop.IsSound)
    (isPlain : root.IsPlain)
    (isValue : workshop.rootValue root = .mapping entries) :
    Value.AreEntries entries := by
  cases root with
  | atom value origin =>
      have isMapping : value = .mapping entries := isValue
      rw [isMapping] at isPlain
      cases isPlain
  | collection place =>
      have hasKeys := isSound.holdingAt place
      simp only [rootValue, Workshop.value, deepest, valueOf] at isValue
      cases held : workshop.holdingAt place with
      | mapping members =>
          rw [held] at isValue hasKeys
          cases isValue
          exact Object.AreKeys.areEntries hasKeys workshop
      | _ =>
          rw [held] at isValue
          cases isValue

/-- A mapping that is read from a document has the entries of a mapping. -/
theorem read_areEntries
    {text : Text}
    {entries : List (Value × Value)}
    (isRead : read text = .ok (.mapping entries)) :
    Value.AreEntries entries := by
  obtain ⟨⟨graph, root⟩, _, isRead⟩ := bind_eq_ok_iff.mp isRead
  cases root with
  | none =>
      cases isRead
  | some root =>
      obtain ⟨⟨workshop, object⟩, isBuilt, isValue⟩ := bind_eq_ok_iff.mp isRead
      obtain ⟨isSound, isPlain⟩ := Graph.build_isSound isBuilt
      exact workshop.rootValue_areEntries isSound isPlain (Except.ok.inj isValue)

end Yaml

end SessionHandshake
