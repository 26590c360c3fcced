import SessionHandshake.Text.DomainLabel
import SessionHandshake.Text.Lowercase
import SessionHandshake.Transport.Percent
import SessionHandshake.Value.Quoted

namespace SessionHandshake

/-!
# Hosts

A host is named, or addressed by four decimal numbers with points between them,
or in brackets by groups with colons between them, which a zone may follow.

In its usual form a name is in lower case, and a label with characters beyond
ASCII is written in ASCII.  Numbers are left as they are.
-/

/-- Why a text is no host, or no host with a port. -/
inductive HostProblem where
  | malformed (place : Text)
  | badCharacter (host : Text) (character : CodePoint)
  | badEscape (host escape : Text)
  | badLabel (label : Text)
  deriving DecidableEq

/-- The wording of why a text is no host. -/
def HostProblem.message : HostProblem → Text
  | .malformed place =>
      place.quoted ++ (" is not a valid host or port" : Text)
  | .badCharacter host character =>
      ("Host " : Text) ++ host.quoted ++ (" contains invalid character " : Text) ++
        Text.quoted [character]
  | .badEscape host escape =>
      ("Host " : Text) ++ host.quoted ++
        (" contains invalid percent-encoded control character " : Text) ++ escape.quoted
  | .badLabel label =>
      ("Name '" : Text) ++ label ++ ("' is not a valid IDNA label" : Text)

namespace Host

/-! ## Forms -/

/-- A name of a host has none of the marks that end it, and escapes are complete. -/
def isHostName (text : Text) : Bool :=
  text.all (fun point => !point.isOneOf "[]:/?#") && Percent.isEscaped text

/-- A group of an address with colons: one to four hexadecimal digits. -/
def isGroup (text : Text) : Bool :=
  !text.isEmpty && text.length ≤ 4 && text.all CodePoint.isHexDigit

/-- An address of four decimal numbers with points between them. -/
def isDotted (text : Text) : Bool :=
  let parts := text.splitOn (CodePoint.ofChar '.')
  parts.length = 4 &&
    parts.all fun part => !part.isEmpty && part.length ≤ 3 && part.all CodePoint.isDigit

/-- How many groups a list of parts makes up, if it does; the last may be dotted. -/
def groupCount? : List Text → Option Nat
  | [] =>
      some 0
  | [last] =>
      if isGroup last then
        some 1
      else if isDotted last then
        some 2
      else
        none
  | part :: rest =>
      if isGroup part then (groupCount? rest).map (· + 1) else none

/-- The groups of one side of a double colon. -/
def sideCount? (side : Text) : Option Nat :=
  if side.isEmpty then some 0 else groupCount? (side.splitOn (CodePoint.ofChar ':'))

/-- The two sides of the first double colon. -/
def splitDoubleColon : Text → Option (Text × Text)
  | first :: second :: rest =>
      if first = CodePoint.ofChar ':' ∧ second = CodePoint.ofChar ':' then
        some ([], rest)
      else
        (splitDoubleColon (second :: rest)).map fun (before, after) => (first :: before, after)
  | _ =>
      none

/-- An address of eight groups, of which a double colon may leave out some. -/
def isColoned (text : Text) : Bool :=
  match splitDoubleColon text with
  | none =>
      sideCount? text = some 8
  | some (before, after) =>
      match sideCount? before, sideCount? after with
      | some first, some second =>
          first + second ≤ 7 && !before.any fun point => point = CodePoint.ofChar '.'
      | _, _ =>
          false

/-- A character of the name of a zone, or the sign of an escape. -/
def isZonePoint (point : CodePoint) : Bool :=
  Percent.isUnreserved point || point = Percent.sign

/-- The name of a zone, in which escapes are complete. -/
def isZone (text : Text) : Bool :=
  !text.isEmpty && text.all isZonePoint && Percent.isEscaped text

/-- What stands between brackets: an address with colons, and perhaps a zone. -/
def isBracketed (text : Text) : Bool :=
  match text.splitAtFirst Percent.sign with
  | (address, none) =>
      isColoned address
  | (address, some zone) =>
      isColoned address && isZone zone

/-- A host in brackets, and what follows it. -/
def splitBrackets (text : Text) : Option (Text × Text) :=
  match text.dropPrefix? "[" with
  | none =>
      none
  | some rest =>
      match rest.splitAtFirst (CodePoint.ofChar ']') with
      | (inside, some after) =>
          if isBracketed inside then
            some (("[" : Text) ++ inside ++ ("]" : Text), after)
          else
            none
      | (_, none) =>
          none

/-- A host at the front of a text, and what follows it. -/
def split (text : Text) : Option (Text × Text) :=
  if text.startsWith "[" then
    splitBrackets text
  else
    let name := text.takeWhile fun point => point ≠ CodePoint.ofChar ':'
    if isHostName name then
      some (name, text.drop name.length)
    else
      none

/-- A decimal number below 256 without zeros in front of it. -/
def isOctet (text : Text) : Bool :=
  Text.decimalValue text < 256 && (!text.startsWith "0" || text.length = 1)

/-- In an address with colons, four decimal numbers at its end are those of bytes. -/
def hasOctets (address : Text) : Bool :=
  match (address.splitOn (CodePoint.ofChar ':')).getLast? with
  | some last =>
      !isDotted last || (last.splitOn (CodePoint.ofChar '.')).all isOctet
  | none =>
      true

/-- An address of a kind to come: a version after `v`, a point, and something more. -/
def isFuture (text : Text) : Bool :=
  match text.splitAtFirst (CodePoint.ofChar '.') with
  | (version, some rest) =>
      version.startsWith "v" && 1 < version.length && (version.drop 1).all CodePoint.isHexDigit &&
        !rest.isEmpty
  | (_, none) =>
      false

/-- What stands between brackets is an address to which something can be sent. -/
def isReachable (text : Text) : Bool :=
  if text.startsWith "v" then
    isFuture text
  else
    match text.splitAtFirst Percent.sign with
    | (address, none) =>
        isColoned address && hasOctets address
    | (address, some zone) =>
        isColoned address && hasOctets address && !zone.isEmpty && !zone.contains Percent.sign

/-- Brackets stand around all of a host, with an address in them; a port may follow. -/
def hasBracketedHost (place : Text) : Bool :=
  match place.splitAtFirst (CodePoint.ofChar '[') with
  | (before, some rest) =>
      let (inside, after) := rest.splitAtFirst (CodePoint.ofChar ']')
      let after := after.getD []
      before.isEmpty && (after.isEmpty || after.startsWith ":") && isReachable inside
  | (_, none) =>
      isReachable (place.takeWhile fun point => point ≠ CodePoint.ofChar ':')

/-- Where there are brackets in a host or its surroundings, they are around the host. -/
def hasSoundBrackets (authority place : Text) : Bool :=
  match authority.contains (CodePoint.ofChar '['), authority.contains (CodePoint.ofChar ']') with
  | false, false =>
      true
  | true, true =>
      hasBracketedHost place
  | _, _ =>
      false

/-- The characters beyond ASCII whose usual forms hold a mark that separates parts. -/
def markedForms : List Nat := [
    0x2047, 0x2048, 0x2049, 0x2100, 0x2101, 0x2105, 0x2106, 0x2a74, 0xfe13, 0xfe16, 0xfe55,
    0xfe56, 0xfe5f, 0xfe6b, 0xff03, 0xff0f, 0xff1a, 0xff1f, 0xff20]

/-- A host or its surroundings hold such a mark in another form. -/
def hidesMark (authority : Text) : Bool :=
  authority.any fun point => markedForms.contains point.value

/-! ## Characters -/

/-- A control character or a space, which no host holds. -/
def isForbidden (point : CodePoint) : Bool :=
  point.value ≤ 0x20 || point.value = 0x7f

/-- The first escape of a text that stands for a control character. -/
def controlEscape? : Text → Option Text
  | percent :: first :: second :: rest =>
      match first.hexValue?, second.hexValue? with
      | some high, some low =>
          if percent = Percent.sign ∧ (high < 2 ∨ (high = 7 ∧ low = 15)) then
            some [percent, first, second]
          else
            controlEscape? (first :: second :: rest)
      | _, _ =>
          controlEscape? (first :: second :: rest)
  | _ =>
      none

/-- A host must not hold control characters and spaces, nor escaped control characters. -/
def checkCharacters (host : Text) : Except HostProblem Unit :=
  match host.find? isForbidden, controlEscape? host with
  | some character, _ =>
      .error (.badCharacter host character)
  | none, some escape =>
      .error (.badEscape host escape)
  | none, none =>
      .ok ()

/-! ## Usual forms -/

/-- One of the numbers of an address, in decimal or in hexadecimal digits. -/
def isNumber (text : Text) : Bool :=
  match text with
  | zero :: letter :: digits =>
      text.all CodePoint.isDigit ||
        (zero = CodePoint.ofChar '0' && letter.isOneOf "xX" && !digits.isEmpty &&
          digits.all CodePoint.isHexDigit)
  | _ =>
      !text.isEmpty && text.all CodePoint.isDigit

/-- One to four numbers with points between them. -/
def isNumeric (host : Text) : Bool :=
  let parts := host.splitOn (CodePoint.ofChar '.')
  parts.length ≤ 4 && parts.all isNumber

/-- A label of a host name in its usual form, if it has one. -/
def usualLabel (label : Text) : Except HostProblem Text :=
  if DomainLabel.isAscii label then
    .ok (Percent.upperEscapes label.asciiLowercase)
  else
    match DomainLabel.written? (Text.lowercase label) with
    | some written =>
        .ok written
    | none =>
        .error (.badLabel label)

/-- A zone in its usual form, in which nothing but the sign in front of it is encoded. -/
def usualZone (zone : Text) : Text :=
  let name := if zone.startsWith "25" && zone.length ≠ 2 then zone.drop 2 else zone
  Percent.encodePart Percent.isUnreserved name

/-- A host in brackets in its usual form. -/
def usualBrackets (host : Text) : Text :=
  match host.splitAtFirst Percent.sign with
  | (host, none) =>
      host.asciiLowercase
  | (front, some zone) =>
      front.asciiLowercase ++ [Percent.sign] ++ usualZone zone.dropLast ++ ("]" : Text)

/-- A host in its usual form, if it has one. -/
def usual (host : Text) : Except HostProblem Text :=
  if host.startsWith "[" then
    .ok (usualBrackets host)
  else
    let name := Percent.decodeUnreserved CodePoint.hexValue? host
    if isNumeric name then
      .ok name
    else
      ((name.splitOn (CodePoint.ofChar '.')).mapM usualLabel).map (Text.joined ".")

end Host

end SessionHandshake
