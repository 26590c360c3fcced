import Mathlib.Data.List.DropRight
import SessionHandshake.Console

namespace SessionHandshake

/-!
# What a mask leaves visible

A mask has a window: a number of characters at the end of a token that may be seen.  Of a
token that is no longer than the window nothing is seen but its length, and of a longer one
the characters in the window.  A window of no characters at all does not work: the distance
zero before the end of a text is taken for its start, so that the whole token is seen.
-/

namespace Console

/-- What is seen of a token that is longer than the window. -/
def seen (window : Nat) (token : Text) : Text :=
  if 0 < window then token.rtake window else token

theorem tail_eq_seen (token : Text) (window : Nat) : tail token window = seen window token := by
  by_cases someWindow : 0 < window
  · have isPositive : 0 < (window : Int) := Int.natCast_pos.mpr someWindow
    rw [seen, if_pos someWindow, tail, if_pos isPositive]
    rfl
  · have noWindow : window = 0 := Nat.eq_zero_of_not_pos someWindow
    rw [seen, if_neg someWindow, noWindow]
    rfl

theorem maskText_of_le
    {token : Text}
    {window : Nat}
    (notEmpty : token ≠ [])
    (isShort : token.length ≤ window) :
    maskText token window = stars token.length := by
  have isShown : (token.length : Int) ≤ window := Int.ofNat_le.mpr isShort
  rw [maskText, List.isEmpty_eq_false_iff.mpr notEmpty, if_neg Bool.false_ne_true,
    if_pos isShown]

theorem maskText_of_lt
    {token : Text}
    {window : Nat}
    (isLong : window < token.length) :
    maskText token window = stars hiddenStars ++ seen window token := by
  have notEmpty : token ≠ [] := List.ne_nil_of_length_pos (Nat.zero_lt_of_lt isLong)
  have tooLong : ¬ (token.length : Int) ≤ window := by omega
  rw [maskText, List.isEmpty_eq_false_iff.mpr notEmpty, if_neg Bool.false_ne_true,
    if_neg tooLong, tail_eq_seen]

/-- Tokens longer than the window are masked alike exactly if the same is seen of them. -/
theorem maskText_eq_iff
    {one other : Text}
    {window : Nat}
    (isLong : window < one.length)
    (otherIsLong : window < other.length) :
    maskText one window = maskText other window ↔ seen window one = seen window other := by
  rw [maskText_of_lt isLong, maskText_of_lt otherIsLong, List.append_cancel_left_eq]

/-- Tokens that are the same within the window are masked alike unless the window is empty. -/
theorem maskText_eq_iff_of_rtake
    {one other : Text}
    {window : Nat}
    (isLong : window < one.length)
    (otherIsLong : window < other.length)
    (sameWithin : one.rtake window = other.rtake window) :
    maskText one window = maskText other window ↔ 0 < window ∨ one = other := by
  rw [maskText_eq_iff isLong otherIsLong, seen, seen]
  by_cases someWindow : 0 < window
  · rw [if_pos someWindow, if_pos someWindow]
    exact ⟨fun _ => .inl someWindow, fun _ => sameWithin⟩
  · rw [if_neg someWindow, if_neg someWindow]
    exact ⟨.inr, fun alike => alike.resolve_left someWindow⟩

theorem mask_text
    {visible : Value}
    {window : Nat}
    (isWindow : visible.toInt? = some (window : Int))
    (token : Text) :
    mask (.text token) visible = .ok (maskText token window) := by
  simp only [mask, isWindow]

/--
A token that fits the window is masked throughout, and of a longer one only the characters
in the window are visible, so that those before it make no difference: unless the window is
empty, when all of the token is visible and every character makes a difference.
-/
theorem mask_shows_window
    {visible : Value}
    {window : Nat}
    (isWindow : visible.toInt? = some (window : Int)) :
    (∀ token : Text,
        token ≠ [] →
        token.length ≤ window →
        mask (.text token) visible = .ok (stars token.length)) ∧
      (∀ token : Text,
        window < token.length →
        mask (.text token) visible =
          .ok (stars hiddenStars ++ if 0 < window then token.rtake window else token)) ∧
      ∀ one other : Text,
        window < one.length →
        window < other.length →
        one.rtake window = other.rtake window →
        (mask (.text one) visible = mask (.text other) visible ↔ 0 < window ∨ one = other) := by
  simp only [mask_text isWindow, Except.ok.injEq]
  exact ⟨fun _ => maskText_of_le, fun _ => maskText_of_lt, fun _ _ => maskText_eq_iff_of_rtake⟩

/-- Through the window of four characters that is used unless another one is given. -/
theorem mask_shows_window_four :
    mask (Value.ofString "abc") (.int 4) = .ok "***" ∧
      mask (Value.ofString "abcdefghijkl") (.int 4) = .ok "********ijkl" ∧
      mask (Value.ofString "abcdefghijkl") (.int 4) = mask (Value.ofString "ABCijkl") (.int 4) := by
  have isWindow : (Value.int 4).toInt? = some ((4 : Nat) : Int) := rfl
  obtain ⟨short, long, alike⟩ := mask_shows_window isWindow
  exact ⟨short "abc" (by decide) (by decide), long "abcdefghijkl" (by decide),
    (alike "abcdefghijkl" "ABCijkl" (by decide) (by decide) (by decide)).mpr (.inl (by decide))⟩

/-- Through an empty window two tokens are seen as they are. -/
theorem mask_without_window :
    mask (Value.ofString "abcdef") (.int 0) = .ok "********abcdef" ∧
      mask (Value.ofString "ghijkl") (.int 0) = .ok "********ghijkl" ∧
      Text.ofString "********abcdef" ≠ "********ghijkl" ∧
      ("abcdef" : Text).rtake 0 = ("ghijkl" : Text).rtake 0 :=
  ⟨rfl, rfl, by decide, by decide⟩

end Console

end SessionHandshake
