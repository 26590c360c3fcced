import SessionHandshake.Text.Basic

namespace SessionHandshake

/-!
# Splitting and joining

A text is split at a separator into parts that do not hold it, and joining such
parts undoes the splitting.  Changing a text point by point, into lower case for
instance, changes each of its parts alike.  A scan that stops at a mark sees nothing
of what is behind the mark.
-/

namespace Text

/-- What does not hold the separator stays in front of it. -/
theorem splitAtFirst_append_left
    {separator : CodePoint}
    {front : Text}
    (absent : separator ∉ front)
    (tail : Text) :
    splitAtFirst separator (front ++ tail) =
      (front ++ (splitAtFirst separator tail).1, (splitAtFirst separator tail).2) := by
  induction front with
  | nil =>
      rfl
  | cons point rest inductionHypothesis =>
      have notSame := List.ne_of_not_mem_cons absent
      have restAbsent := List.not_mem_of_not_mem_cons absent
      rw [List.cons_append, splitAtFirst, if_neg (Ne.symm notSame),
        inductionHypothesis restAbsent]
      rfl

theorem splitAtFirst_append
    {separator : CodePoint}
    {before : Text}
    (absent : separator ∉ before)
    (after : Text) :
    splitAtFirst separator (before ++ separator :: after) = (before, some after) := by
  rw [splitAtFirst_append_left absent, splitAtFirst, if_pos rfl, List.append_nil]

theorem splitAtFirst_of_notMem {separator : CodePoint} {text : Text} (absent : separator ∉ text) :
    splitAtFirst separator text = (text, none) := by
  have split := splitAtFirst_append_left absent []
  rwa [splitAtFirst, List.append_nil] at split

theorem splitOn_of_notMem {separator : CodePoint} {part : Text} (absent : separator ∉ part) :
    splitOn separator part = [part] := by
  induction part with
  | nil =>
      rfl
  | cons point rest inductionHypothesis =>
      have notSame := List.ne_of_not_mem_cons absent
      have restAbsent := List.not_mem_of_not_mem_cons absent
      rw [splitOn, if_neg (Ne.symm notSame), inductionHypothesis restAbsent]

theorem splitOn_append
    {separator : CodePoint}
    {part : Text}
    (absent : separator ∉ part)
    (rest : Text) :
    splitOn separator (part ++ separator :: rest) = part :: splitOn separator rest := by
  induction part with
  | nil =>
      rw [List.nil_append, splitOn, if_pos rfl]
  | cons point others inductionHypothesis =>
      have notSame := List.ne_of_not_mem_cons absent
      have othersAbsent := List.not_mem_of_not_mem_cons absent
      rw [List.cons_append, splitOn, if_neg (Ne.symm notSame), inductionHypothesis othersAbsent]

/-- Texts joined by a separator that is in none of them are split again. -/
theorem splitOn_joined
    {separator : CodePoint}
    {parts : List Text}
    (someParts : parts ≠ [])
    (absent : ∀ part ∈ parts, separator ∉ part) :
    splitOn separator (joined [separator] parts) = parts := by
  match parts, someParts with
  | [only], _ =>
      exact splitOn_of_notMem (absent only List.mem_cons_self)
  | first :: second :: others, _ =>
      have firstAbsent := absent first List.mem_cons_self
      have inductionHypothesis :
          splitOn separator (joined [separator] (second :: others)) = second :: others :=
        splitOn_joined (List.cons_ne_nil second others) fun part member =>
          absent part (List.mem_cons_of_mem first member)
      rw [joined, List.append_assoc, List.singleton_append, splitOn_append firstAbsent,
        inductionHypothesis]
      exact List.cons_ne_nil second others

/-! ## Letters in lower case -/

/-- A letter in lower case, and any other point as it is. -/
def lowerPoint (point : CodePoint) : CodePoint :=
  if point.isBetween 'A' 'Z' then CodePoint.ofNat (point.value + 32) else point

theorem asciiLowercase_eq_map (text : Text) : text.asciiLowercase = text.map lowerPoint :=
  rfl

theorem splitOn_ne_nil (separator : CodePoint) (text : Text) : splitOn separator text ≠ [] := by
  cases text with
  | nil =>
      exact List.cons_ne_nil _ _
  | cons point rest =>
      rw [splitOn]
      split
      · exact List.cons_ne_nil _ _
      · split <;> exact List.cons_ne_nil _ _

/-- Parts that are changed point by point are joined to the changed text. -/
theorem joined_map_splitOn
    {separator : CodePoint}
    {change : CodePoint → CodePoint}
    (kept : change separator = separator)
    (text : Text) :
    joined [separator] ((splitOn separator text).map (List.map change)) = text.map change := by
  induction text with
  | nil =>
      rfl
  | cons point rest inductionHypothesis =>
      obtain ⟨first, others, split⟩ := List.exists_cons_of_ne_nil (splitOn_ne_nil separator rest)
      rw [split, List.map_cons] at inductionHypothesis
      rw [splitOn, split]
      by_cases isSeparator : point = separator
      · rw [if_pos isSeparator, List.map_cons, List.map_cons, joined, inductionHypothesis,
          isSeparator, List.map_cons, kept]
        · rfl
        · exact List.cons_ne_nil _ _
      · rw [if_neg isSeparator, List.map_cons]
        cases others with
        | nil =>
            exact congrArg (change point :: ·) inductionHypothesis
        | cons second more =>
            exact congrArg (change point :: ·) inductionHypothesis

theorem mem_of_mem_splitOn {separator : CodePoint} {text part : Text}
    (isPart : part ∈ splitOn separator text) :
    ∀ point ∈ part, point ∈ text := by
  induction text generalizing part with
  | nil =>
      rw [List.mem_singleton.mp isPart]
      exact fun point member => member
  | cons first rest inductionHypothesis =>
      intro point member
      rw [splitOn] at isPart
      split at isPart
      · rcases List.mem_cons.mp isPart with rfl | isLater
        · cases member
        · exact List.mem_cons_of_mem first (inductionHypothesis isLater point member)
      · obtain ⟨front, others, split⟩ :=
          List.exists_cons_of_ne_nil (splitOn_ne_nil separator rest)
        rw [split] at isPart
        rcases List.mem_cons.mp isPart with rfl | isLater
        · rcases List.mem_cons.mp member with rfl | isFront
          · exact List.mem_cons_self
          · refine List.mem_cons_of_mem first (inductionHypothesis ?_ point isFront)
            rw [split]
            exact List.mem_cons_self
        · refine List.mem_cons_of_mem first (inductionHypothesis ?_ point member)
          rw [split]
          exact List.mem_cons_of_mem front isLater

/-! ## In front of a mark -/

theorem takeWhile_append_stop
    {accepts : CodePoint → Bool}
    {stop : CodePoint}
    (stops : accepts stop = false)
    (front tail : Text) :
    (front ++ stop :: tail).takeWhile accepts = front.takeWhile accepts := by
  induction front with
  | nil =>
      exact List.takeWhile_cons_of_neg (by rw [stops]; exact Bool.false_ne_true)
  | cons point rest inductionHypothesis =>
      rw [List.cons_append, List.takeWhile_cons, List.takeWhile_cons, inductionHypothesis]

theorem dropWhile_append_stop
    {drops : CodePoint → Bool}
    {stop : CodePoint}
    (stays : drops stop = false)
    (front tail : Text) :
    (front ++ stop :: tail).dropWhile drops = front.dropWhile drops ++ stop :: tail := by
  induction front with
  | nil =>
      exact List.dropWhile_cons_of_neg (by rw [stays]; exact Bool.false_ne_true)
  | cons point rest inductionHypothesis =>
      rw [List.cons_append, List.dropWhile_cons, List.dropWhile_cons, inductionHypothesis]
      split <;> rfl

theorem startsWith_append_stop
    {stop : CodePoint}
    {start : Text}
    (absent : stop ∉ start)
    (front tail : Text) :
    startsWith (front ++ stop :: tail) start = startsWith front start := by
  induction start generalizing front with
  | nil =>
      rfl
  | cons point rest inductionHypothesis =>
      cases front with
      | nil =>
          have different : (point == stop) = false :=
            beq_eq_false_iff_ne.mpr (List.ne_of_not_mem_cons absent).symm
          rw [List.nil_append, startsWith, List.isPrefixOf_cons_cons, different]
          rfl
      | cons first others =>
          have restSame := inductionHypothesis (List.not_mem_of_not_mem_cons absent) others
          rw [startsWith, startsWith] at restSame
          rw [List.cons_append, startsWith, startsWith, List.isPrefixOf_cons_cons,
            List.isPrefixOf_cons_cons, restSame]

/-- What is in front of a mark decides how a text begins that does not have the mark. -/
theorem dropPrefix?_append_stop
    {stop : CodePoint}
    {start : Text}
    (absent : stop ∉ start)
    (front tail : Text) :
    dropPrefix? (front ++ stop :: tail) start =
      (dropPrefix? front start).map (· ++ stop :: tail) := by
  rw [dropPrefix?, dropPrefix?, startsWith_append_stop absent]
  cases isStart : startsWith front start with
  | false =>
      rfl
  | true =>
      have fits : start.length ≤ front.length := (List.isPrefixOf_iff_prefix.mp isStart).length_le
      simp only [if_true, Option.map_some, List.drop_append_of_le_length fits]

end Text

end SessionHandshake
