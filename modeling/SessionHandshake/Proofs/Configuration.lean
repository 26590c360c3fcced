import SessionHandshake.Config
import SessionHandshake.Proofs.DistinctKeys
import SessionHandshake.Proofs.Entries

namespace SessionHandshake

/-!
# Configuration files

The document in a configuration file has to be a mapping.  One that counts as false is taken
for an empty mapping though, whatever it is.  What is configured counts, whatever it is, and
only what is not configured has a default, or is reported as missing.
-/

namespace Config

variable
  {content : Bytes}
  {document : Value}
  {config : Config}
  {path : Text}

/-- A document can be read from the content of a file. -/
def Writes (content : Bytes) (document : Value) : Prop :=
  ∃ text, Text.ofUtf8? false content = some text ∧ Yaml.read (unifyBreaks text) = .ok document

theorem Writes.ofFile_eq (writes : Writes content document) (path : Text) :
    ofFile path content = ofDocument path document := by
  obtain ⟨text, isText, isRead⟩ := writes
  rw [ofFile, isText]
  simp only [isRead, ok_bind]

/-! ## Documents -/

theorem ofDocument_of_isMapping (isMapping : document.isMapping = true) :
    ofDocument path document = .ok { entries := document.toMapping?.getD [] } := by
  cases document with
  | mapping entries =>
      cases entries <;> rfl
  | _ =>
      cases isMapping

theorem ofDocument_of_isFalse (isFalse : document.isTruthy = false) :
    ofDocument path document = .ok { entries := document.toMapping?.getD [] } := by
  have isEmpty : ofDocument path document = .ok empty := if_pos (by rw [isFalse]; rfl)
  cases document with
  | mapping entries =>
      exact ofDocument_of_isMapping rfl
  | _ =>
      exact isEmpty

theorem ofDocument_of_isTrue
    (notMapping : document.isMapping = false)
    (isTrue : document.isTruthy = true) :
    ofDocument path document = .error (.badValue (.configurationNotMapping path)) := by
  have notEmpty : ¬ (!document.isTruthy) = true := by
    rw [isTrue]
    exact Bool.false_ne_true
  cases document with
  | mapping entries =>
      cases notMapping
  | _ =>
      exact if_neg notEmpty

theorem ofDocument_eq_ok_iff :
    ofDocument path document = .ok config ↔
      (document.isMapping = true ∨ document.isTruthy = false) ∧
        config.entries = document.toMapping?.getD [] := by
  cases config with
  | mk entries =>
      cases isMapping : document.isMapping with
      | true =>
          rw [ofDocument_of_isMapping isMapping, Except.ok.injEq, mk.injEq, eq_comm]
          exact (and_iff_right (.inl rfl)).symm
      | false =>
          cases isTruthy : document.isTruthy with
          | true =>
              rw [ofDocument_of_isTrue isMapping isTruthy]
              exact iff_of_false (by rintro ⟨⟩) fun ⟨accepted, _⟩ => by
                rcases accepted with isTrue | isFalse
                · cases isTrue
                · cases isFalse
          | false =>
              rw [ofDocument_of_isFalse isTruthy, Except.ok.injEq, mk.injEq, eq_comm]
              exact (and_iff_right (.inr rfl)).symm

/-! ## Values -/

/-- What a configuration answers for a key. -/
inductive Answers (config : Config) (key : Value) : Except Fault Value → Prop
  | configured {other value : Value}
      (isEntry : (other, value) ∈ config.entries)
      (isKey : Value.same key other = true) :
      Answers config key (.ok value)
  | default {value : Value}
      (absent : ∀ entry ∈ config.entries, Value.same key entry.1 = false)
      (isDefault : Value.find? key defaults = some value) :
      Answers config key (.ok value)
  | missing
      (absent : ∀ entry ∈ config.entries, Value.same key entry.1 = false)
      (noDefault : Value.find? key defaults = none) :
      Answers config key (.error (.missingKey key))

theorem get_of_find?
    {key value : Value}
    (isHashable : key.isHashable = true)
    (found : Value.find? key config.entries = some value) :
    config.get key none = .ok value := by
  simp only [get, if_pos isHashable, found]

theorem answers_get {key : Value} (isHashable : key.isHashable = true) :
    config.Answers key (config.get key none) := by
  cases found : Value.find? key config.entries with
  | some value =>
      obtain ⟨other, isEntry, isKey⟩ := Value.exists_of_find? found
      rw [get_of_find? isHashable found]
      exact .configured isEntry isKey
  | none =>
      have absent := Value.find?_eq_none_iff.mp found
      cases isDefault : Value.find? key defaults with
      | some value =>
          simp only [get, if_pos isHashable, found, isDefault]
          exact .default absent isDefault
      | none =>
          simp only [get, if_pos isHashable, found, isDefault]
          exact .missing absent isDefault

/-- What is configured is answered as it is. -/
theorem get_of_mem
    {key value : Value}
    (areEntries : Value.AreEntries config.entries)
    (isKey : Value.same key key = true)
    (isEntry : (key, value) ∈ config.entries) :
    config.get key none = .ok value :=
  get_of_find? (areEntries.hashable _ isEntry)
    (Value.find?_of_mem areEntries.distinct isKey isEntry)

theorem areEntries_of_ofFile
    (writes : Writes content document)
    (isRead : ofFile path content = .ok config) :
    Value.AreEntries config.entries := by
  rw [writes.ofFile_eq, ofDocument_eq_ok_iff] at isRead
  obtain ⟨_, sameEntries⟩ := isRead
  obtain ⟨text, _, isDocument⟩ := writes
  rw [sameEntries]
  cases document with
  | mapping entries =>
      exact Yaml.read_areEntries isDocument
  | _ =>
      exact ⟨List.forall_mem_nil _, .nil⟩

/--
A configuration is read exactly from a document that is a mapping or counts as false, and
every other document is refused.  It has the entries of the mapping, or none.  The value of
an entry is what its key is answered with; a key without an entry has its default, or else
is reported as missing.
-/
theorem ofFile_mapping_or_false (writes : Writes content document) (path : Text) :
    ((∃ config, ofFile path content = .ok config) ↔
        document.isMapping = true ∨ document.isTruthy = false) ∧
      (document.isMapping = false →
        document.isTruthy = true →
        ofFile path content = .error (.badValue (.configurationNotMapping path))) ∧
      ∀ config,
        ofFile path content = .ok config →
        config.entries = document.toMapping?.getD [] ∧
          (∀ key value,
            (key, value) ∈ config.entries →
            Value.same key key = true →
            config.get key none = .ok value) ∧
          ∀ key, key.isHashable = true → config.Answers key (config.get key none) := by
  refine ⟨?_, ?_, fun config isRead => ⟨?_, ?_, fun key isHashable => answers_get isHashable⟩⟩
  · simp only [writes.ofFile_eq, ofDocument_eq_ok_iff]
    exact ⟨fun ⟨_, accepted, _⟩ => accepted, fun accepted => ⟨⟨_⟩, accepted, rfl⟩⟩
  · rw [writes.ofFile_eq]
    exact ofDocument_of_isTrue
  · rw [writes.ofFile_eq, ofDocument_eq_ok_iff] at isRead
    exact isRead.2
  · exact fun key value isEntry isKey =>
      get_of_mem (areEntries_of_ofFile writes isRead) isKey isEntry

/-- The content of a file that configures a key without a value. -/
def unsetTimeout : Bytes := "timeout:\n".toUTF8.toList

/-- A document has been read that is a mapping with one key and no value for it. -/
def isUnset (key : Text) : Except Fault Value → Bool
  | .ok (.mapping [(.text other, .null)]) =>
      other = key
  | _ =>
      false

/-- Equality of values is not decided, but this form of a document is. -/
theorem eq_of_isUnset {key : Text} {outcome : Except Fault Value}
    (unset : isUnset key outcome = true) :
    outcome = .ok (.mapping [(.text key, .null)]) := by
  unfold isUnset at unset
  split at unset
  · rw [of_decide_eq_true unset]
  · cases unset

theorem writes_unsetTimeout :
    Writes unsetTimeout (.mapping [(Value.ofString "timeout", .null)]) :=
  ⟨"timeout:\n", by decide +kernel, eq_of_isUnset (by decide +kernel)⟩

/-- A key without a value is configured, and a number is no configuration. -/
theorem ofFile_mapping_or_false_unset :
    Writes unsetTimeout (.mapping [(Value.ofString "timeout", .null)]) ∧
      (∃ config,
        ofFile "config.yaml" unsetTimeout = .ok config ∧
          config.get (Value.ofString "timeout") none = .ok .null) ∧
      Writes "5".toUTF8.toList (.int 5) ∧
      ofFile "config.yaml" "5".toUTF8.toList =
        .error (.badValue (.configurationNotMapping "config.yaml")) := by
  have writesNumber : Writes "5".toUTF8.toList (.int 5) := ⟨"5", by decide +kernel, rfl⟩
  obtain ⟨accepted, _, answers⟩ := ofFile_mapping_or_false writes_unsetTimeout "config.yaml"
  obtain ⟨config, isRead⟩ := accepted.mpr (.inl rfl)
  obtain ⟨sameEntries, isAnswered, _⟩ := answers config isRead
  refine ⟨writes_unsetTimeout, ⟨config, isRead, ?_⟩, writesNumber,
    (ofFile_mapping_or_false writesNumber "config.yaml").2.1 rfl rfl⟩
  exact isAnswered _ _ (sameEntries ▸ List.mem_cons_self) (Value.same_text_self _)

/-- An empty list is taken for an empty configuration. -/
theorem ofFile_of_emptyList :
    Writes "[]\n".toUTF8.toList (.list []) ∧
      ofFile "config.yaml" "[]\n".toUTF8.toList = .ok empty := by
  have writes : Writes "[]\n".toUTF8.toList (.list []) := ⟨"[]\n", by decide +kernel, rfl⟩
  exact ⟨writes, writes.ofFile_eq "config.yaml"⟩

end Config

end SessionHandshake
