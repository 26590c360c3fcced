import SessionHandshake.Fault.Basic

namespace SessionHandshake

/-!
# What the handshake prints

Every step of the handshake is reported in a line with a coloured label.  Lines
of the lowest level are printed only while debugging is on.

Passwords and shared secrets must never reach a line.  An access token may, but
only masked: `Console.mask` leaves as many of its last characters as its window
is wide.  A window of no width hides nothing at all.
-/

/-- How important a line is. -/
inductive LogLevel where
  | debug
  | info
  | success
  | warning
  | error
  deriving DecidableEq

/-- A colour by its red, green and blue parts. -/
structure Colour where
  red : Nat
  green : Nat
  blue : Nat
  deriving DecidableEq

namespace LogLevel

/-- The label in front of a line. -/
def label : LogLevel → Text
  | .debug =>
      "[DEBUG]"
  | .info =>
      "[INFO]"
  | .success =>
      "[SUCCESS]"
  | .warning =>
      "[WARN]"
  | .error =>
      "[ERROR]"

/-- The colour of a label. -/
def colour : LogLevel → Colour
  | .debug =>
      ⟨136, 136, 136⟩
  | .info =>
      ⟨68, 170, 238⟩
  | .success =>
      ⟨204, 255, 51⟩
  | .warning =>
      ⟨255, 204, 85⟩
  | .error =>
      ⟨255, 51, 102⟩

end LogLevel

/-- What has been printed so far, and whether debugging is on. -/
structure Console where
  isDebugging : Bool
  printed : Text
  deriving DecidableEq

namespace Console

/-- A text between the codes that switch a colour on and off again. -/
def colouredText (text : Text) (red green blue : Text) : Text :=
  ("\x1b[38;2;" : Text) ++ red ++ (";" : Text) ++ green ++ (";" : Text) ++ blue ++
    ("m" : Text) ++ text ++ ("\x1b[0m" : Text)

/-- The line of a message at a level. -/
def line (level : LogLevel) (message : Text) : Text :=
  let colour := level.colour
  colouredText level.label (Text.ofNat colour.red) (Text.ofNat colour.green)
      (Text.ofNat colour.blue) ++
    (" " : Text) ++ message ++ ("\n" : Text)

/-- Lines of a level are printed. -/
def shows (console : Console) (level : LogLevel) : Bool :=
  level ≠ .debug || console.isDebugging

/-- The console after a message. -/
def report (console : Console) (level : LogLevel) (message : Text) : Console :=
  if console.shows level then
    { console with printed := console.printed ++ line level message }
  else
    console

/-- How many stars stand for the hidden part of a token. -/
def hiddenStars : Nat := 8

/-- How many characters of a token stay visible unless another number is given. -/
def visibleCharacters : Int := 4

/-- A number of stars. -/
def stars (count : Nat) : Text :=
  List.replicate count (CodePoint.ofChar '*')

/--
The part of a text from a distance before its end on.

The distance zero means the start of the text, and a negative distance is
counted from the start.
-/
def tail (text : Text) (distance : Int) : Text :=
  if 0 < distance then
    text.drop (text.length - distance.toNat)
  else
    text.drop (-distance).toNat

/--
A token with only its last characters visible, as many as the window is wide.

Behind the stars, a window of no width leaves the whole token.
-/
def maskText (token : Text) (visible : Int) : Text :=
  if token.isEmpty then
    "<none>"
  else if token.length ≤ visible then
    stars token.length
  else
    stars hiddenStars ++ tail token visible

/-! ## Arguments of any type -/

/-- A length is at most a number given as a value of any type. -/
def isAtMost (length : Nat) (limit : Value) : Except Fault Bool :=
  match limit with
  | .float number =>
      .ok (match number.compareInt? length with
        | some .gt =>
            false
        | some _ =>
            true
        | none =>
            false)
  | other =>
      match other.toInt? with
      | some number =>
          .ok ((length : Int) ≤ number)
      | none =>
          .error .wrongType

/-- A token that is no text, or of which no whole number of characters is to be visible. -/
def maskOther (token visible : Value) : Except Fault Text :=
  if !token.isTruthy then
    .ok "<none>"
  else
    match token.length? with
    | none =>
        .error .wrongType
    | some length => do
        if ← isAtMost length visible then
          return stars length
        else
          throw .wrongType

/-- A token of any type with only its last characters visible. -/
def mask (token visible : Value) : Except Fault Text :=
  match token, visible.toInt? with
  | .text content, some number =>
      .ok (maskText content number)
  | _, _ =>
      maskOther token visible

/-- A message of any type in a colour given by any three values. -/
def coloured (message colour : Value) : Except Fault Text :=
  match colour.members? with
  | none =>
      .error .wrongType
  | some [red, green, blue] =>
      .ok (colouredText message.shown red.shown green.shown blue.shown)
  | some _ =>
      .error (.badValue .unspecified)

/-- The console after a message of any type; only a text can be printed. -/
def reportValue
    (console : Console)
    (level : LogLevel)
    (message : Value) :
    Except Fault Console :=
  if console.shows level then
    match message with
    | .text content =>
        .ok (console.report level content)
    | _ =>
        .error .wrongType
  else
    .ok console

/-- The console with debugging on or off; any value counts as one of the two. -/
def setDebugging (console : Console) (enabled : Value) : Console :=
  { console with isDebugging := enabled.isTruthy }

end Console

end SessionHandshake
