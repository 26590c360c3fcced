import Mathlib.Data.List.Induction
import SessionHandshake.Value.Basic

namespace SessionHandshake

/-!
# Mappings with textual keys

A text is the same key as no other value than itself.  Setting one textual key
changes what is found under it and nothing else.
-/

namespace Value

theorem same_text_iff {content : Text} {other : Value} :
    same (.text content) other = true ↔ other = .text content := by
  have unfolded : same (.text content) other = sameAtom (.text content) other := by
    simp only [same]
  rw [unfolded]
  constructor
  · intro isSame
    cases other with
    | text found =>
        exact congrArg Value.text (of_decide_eq_true isSame).symm
    | _ =>
        cases isSame
  · rintro rfl
    exact decide_eq_true rfl

theorem same_text_self (content : Text) : same (.text content) (.text content) = true :=
  same_text_iff.mpr rfl

theorem same_text_of_ne {content other : Text} (different : content ≠ other) :
    same (.text content) (.text other) = false :=
  Bool.eq_false_iff.mpr fun isSame => different (Value.text.inj (same_text_iff.mp isSame)).symm

theorem find?_text_cons
    (content key : Text)
    (value : Value)
    (entries : List (Value × Value)) :
    find? (.text content) ((.text key, value) :: entries) =
      if content = key then some value else find? (.text content) entries := by
  rw [find?]
  by_cases isKey : content = key
  · rw [isKey, if_pos (same_text_self key), if_pos rfl]
  · rw [same_text_of_ne isKey, if_neg Bool.false_ne_true, if_neg isKey]

/-- What stands under a name is found behind entries with other names. -/
theorem member?_cons
    (key : String)
    (value : Value)
    (entries : List (Value × Value))
    (name : String) :
    member? ((ofString key, value) :: entries) name =
      if Text.ofString name = Text.ofString key then some value else member? entries name :=
  find?_text_cons _ _ value entries

theorem find?_insert_self (content : Text) (value : Value) (entries : List (Value × Value)) :
    find? (.text content) (insert (.text content) value entries) = some value := by
  induction entries with
  | nil =>
      rw [insert, find?, if_pos (same_text_self content)]
  | cons first rest inductionHypothesis =>
      obtain ⟨other, old⟩ := first
      rw [insert]
      by_cases isSame : same (.text content) other = true
      · rw [if_pos isSame, find?, if_pos isSame]
      · rw [if_neg isSame, find?, if_neg isSame, inductionHypothesis]

theorem find?_insert_of_ne
    {content other : Text}
    (different : content ≠ other)
    (value : Value)
    (entries : List (Value × Value)) :
    find? (.text content) (insert (.text other) value entries) =
      find? (.text content) entries := by
  have notSame : ¬ same (.text content) (.text other) = true := fun isSame =>
    different (Value.text.inj (same_text_iff.mp isSame)).symm
  induction entries with
  | nil =>
      exact if_neg notSame
  | cons first rest inductionHypothesis =>
      obtain ⟨key, old⟩ := first
      rw [insert]
      by_cases isKey : same (.text other) key = true
      · have keyIsOther : key = .text other := same_text_iff.mp isKey
        subst keyIsOther
        rw [if_pos isKey, find?, if_neg notSame, find?, if_neg notSame]
      · rw [if_neg isKey, find?, find?, inductionHypothesis]

/-- A textual key that is not there is put at the end. -/
theorem insert_of_notMem
    {content : Text}
    {entries : List (Value × Value)}
    (absent : .text content ∉ entries.map Prod.fst)
    (value : Value) :
    insert (.text content) value entries = entries ++ [(.text content, value)] := by
  induction entries with
  | nil =>
      rfl
  | cons first rest inductionHypothesis =>
      obtain ⟨other, old⟩ := first
      have notSame : ¬ same (.text content) other = true := fun isSame =>
        absent (by rw [same_text_iff.mp isSame]; exact List.mem_cons_self)
      rw [insert, if_neg notSame, inductionHypothesis fun member =>
        absent (List.mem_cons_of_mem other member)]
      rfl

/-- Entries with textual keys of which no two are the same are a mapping as they are. -/
theorem insertAll_of_nodup
    {members : List (Text × Value)}
    (distinct : (members.map Prod.fst).Nodup) :
    insertAll (members.map fun member => (.text member.1, member.2)) =
      members.map fun member => (.text member.1, member.2) := by
  induction members using List.reverseRecOn with
  | nil =>
      rfl
  | append_singleton leading last inductionHypothesis =>
      rw [List.map_append, List.nodup_append] at distinct
      obtain ⟨leadingDistinct, _, apart⟩ := distinct
      have absent :
          .text last.1 ∉ (leading.map fun member => (Value.text member.1, member.2)).map
            Prod.fst := by
        rw [List.map_map]
        intro isKey
        obtain ⟨member, isMember, same⟩ := List.mem_map.mp isKey
        exact apart member.1 (List.mem_map_of_mem isMember) last.1 (List.mem_singleton.mpr rfl)
          (Value.text.inj same)
      have built := inductionHypothesis leadingDistinct
      rw [insertAll] at built
      rw [List.map_append, insertAll, List.foldl_append, built]
      exact insert_of_notMem absent last.2

end Value

end SessionHandshake
