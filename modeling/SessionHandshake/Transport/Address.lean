import SessionHandshake.Endpoint.Basic
import SessionHandshake.Transport.Host
import SessionHandshake.Transport.Query

namespace SessionHandshake

/-!
# The address of a request

Before a request is sent, its address is brought into its usual form and the
parameters are added to its query.  An address without a scheme or a host, or
for which there is no way to send a request, is a fault.

The usual form has the scheme and the host in lower case, no single or double
dots in its path, and all characters encoded that may not stand for themselves.
-/

/-- The parts of an address as they are written. -/
structure Address where
  scheme : Option Text
  authority : Option Text
  path : Text
  query : Option Text
  fragment : Option Text
  deriving DecidableEq

namespace Address

/-! ## Splitting -/

/-- A character of a scheme after its first letter. -/
def isSchemePoint (point : CodePoint) : Bool :=
  point.isLetter || point.isDigit || point.isOneOf "+.-"

/-- A scheme at the front of a text, and what follows its colon. -/
def splitScheme (text : Text) : Option Text × Text :=
  match text.splitAtFirst (CodePoint.ofChar ':') with
  | (scheme, some rest) =>
      if scheme.head?.any CodePoint.isLetter && scheme.all isSchemePoint then
        (some scheme, rest)
      else
        (none, text)
  | (_, none) =>
      (none, text)

/-- The text begins with a slash or with a scheme that has no point in it. -/
def hasScheme (text : Text) : Bool :=
  text.startsWith "/" ||
    (match splitScheme text with
    | (some scheme, _) =>
        !scheme.contains (CodePoint.ofChar '.')
    | (none, _) =>
        false)

/-- A host and its surroundings at the front of a text, and what follows them. -/
def splitAuthority (text : Text) : Option Text × Text :=
  match text.dropPrefix? "//" with
  | some rest =>
      let isEnd (point : CodePoint) : Bool := point.isOneOf "\\/?#"
      (some (rest.takeWhile fun point => !isEnd point),
        rest.dropWhile fun point => !isEnd point)
  | none =>
      (none, text)

/-- The parts of a text; one that does not begin with a scheme begins with a host. -/
def ofText (text : Text) : Address :=
  let text := if hasScheme text then text else ("//" : Text) ++ text
  let (scheme, rest) := splitScheme text
  let (authority, rest) := splitAuthority rest
  let (rest, fragment) := rest.splitAtFirst (CodePoint.ofChar '#')
  let (path, query) := rest.splitAtFirst (CodePoint.ofChar '?')
  {
    scheme := scheme.map Text.asciiLowercase
    authority := authority
    path := path
    query := query
    fragment := fragment
  }

/-! ## The host -/

/-- Who asks, which host, and which port of it. -/
structure Authority where
  user : Option Text
  host : Text
  port : Option Nat
  deriving DecidableEq

/-- What stands before the last `@`, if there is one, and what stands after it. -/
def splitUser (authority : Text) : Option Text × Text :=
  match Text.splitAtFirst (CodePoint.ofChar '@') authority.reverse with
  | (host, some user) =>
      (if user.isEmpty then none else some user.reverse, host.reverse)
  | (_, none) =>
      (none, authority)

/-- The greatest number of a port. -/
def greatestPort : Nat := 65535

/-- The most digits of a port, zeros in front of it apart. -/
def portDigits : Nat := 5

/-- A port in decimal digits; nothing at all is no port. -/
def port? (text : Text) : Option (Option Nat) :=
  if text.isEmpty then
    some none
  else if text.all CodePoint.isDigit &&
      (text.dropWhile fun point => point = CodePoint.ofChar '0').length ≤ portDigits then
    some (some (Text.decimalValue text))
  else
    none

/-- The host and the port that a text writes. -/
def hostAndPort? (place : Text) : Option (Text × Option Nat) := do
  let (host, rest) ← Host.split place
  match rest with
  | [] =>
      return (host, none)
  | colon :: digits =>
      if colon = CodePoint.ofChar ':' then
        let port ← port? digits
        return (host, port)
      else
        none

/-- The host and its surroundings that a text writes. -/
def readAuthority (text : Text) : Except HostProblem Authority := do
  let (user, place) := splitUser text
  match hostAndPort? place with
  | some (host, port) =>
      Host.checkCharacters host
      return { user := user, host := host, port := port }
  | none =>
      Host.checkCharacters place
      throw (.malformed place)

/-! ## The path -/

/-- A mark that separates parts of a part of an address. -/
def isDelimiter (point : CodePoint) : Bool :=
  point.isOneOf "!$&'()*+,;="

/-- A character that stands for itself in the name of who asks. -/
def isUserPoint (point : CodePoint) : Bool :=
  Percent.isUnreserved point || isDelimiter point || point = CodePoint.ofChar ':'

/-- A character that stands for itself in a path. -/
def isPathPoint (point : CodePoint) : Bool :=
  isUserPoint point || point.isOneOf "@/"

/-- A character that stands for itself in a query or a fragment. -/
def isQueryPoint (point : CodePoint) : Bool :=
  isPathPoint point || point = CodePoint.ofChar '?'

/-- The segments of a path without single dots, and without what double dots undo. -/
def keptSegments (segments : List Text) : List Text :=
  segments.foldl
    (fun kept segment =>
      if segment = ("." : Text) then
        kept
      else if segment = (".." : Text) then
        kept.dropLast
      else
        kept ++ [segment])
    []

/-- The path without single and double dots. -/
def withoutDots (path : Text) : Text :=
  let kept := keptSegments (path.splitOn (CodePoint.ofChar '/'))
  let rooted :=
    if path.startsWith "/" && kept.head?.all (fun segment => !segment.isEmpty) then
      [] :: kept
    else
      kept
  let closed :=
    if path.endsWith "/." || path.endsWith "/.." then rooted ++ [[]] else rooted
  Text.joined "/" closed

/-! ## The whole address -/

/-- The schemes whose addresses have a usual form. -/
def isWebScheme (scheme : Text) : Bool :=
  scheme = ("http" : Text) || scheme = ("https" : Text)

/-- The address is not in its form. -/
def unparsable (reason : Text) : Fault :=
  .unreachable (("Failed to parse: " : Text) ++ reason)

/-- The address has no scheme. -/
def schemeless (url : Text) : Fault :=
  .unreachable (("Invalid URL " : Text) ++ url.quoted ++
    (": No scheme supplied. Perhaps you meant https://" : Text) ++ url ++ ("?" : Text))

/-- The address has no host. -/
def hostless (url : Text) : Fault :=
  .unreachable (("Invalid URL " : Text) ++ url.quoted ++ (": No host supplied" : Text))

/-- The host of the address begins with a mark that no host begins with. -/
def badLabel : Fault :=
  .unreachable "URL has an invalid label."

/-- There is no way to send a request to the address. -/
def unsupported (url : Text) : Fault :=
  .unreachable (("No connection adapters were found for " : Text) ++ url.quoted)

/-- A part behind its mark, if there is anything in it. -/
def marked (mark : String) (part : Text) : Text :=
  if part.isEmpty then [] else Text.ofString mark ++ part

/-- The host and its surroundings in one text. -/
def Authority.written (authority : Authority) : Text :=
  let user := (authority.user.map fun user => user ++ ("@" : Text)).getD []
  let port := match authority.port with
    | none =>
        []
    | some 0 =>
        []
    | some number =>
        (":" : Text) ++ Text.ofNat number
  user ++ authority.host ++ port

/-- The parts put together again, the path with a slash in front. -/
def assembled (scheme : Text) (authority : Authority) (path query fragment : Text) : Text :=
  let path := if path.startsWith "/" then path else ("/" : Text) ++ path
  scheme ++ ("://" : Text) ++ authority.written ++ path ++ marked "?" query ++
    marked "#" fragment

/-- A query with more parameters behind it. -/
def extendedQuery (query parameters : Text) : Text :=
  if query.isEmpty then
    parameters
  else
    query ++ marked "&" parameters

/-- The address of a scheme and a host, parameters added to its query. -/
def complete
    (address : Address)
    (scheme : Text)
    (authority : Authority)
    (parameters : Text) :
    Except Fault Text :=
  let query := address.query.getD []
  let fragment := address.fragment.getD []
  let assembled :=
    if isWebScheme scheme then
      assembled scheme authority
        (Percent.encodePart isPathPoint (withoutDots address.path))
        (extendedQuery (Percent.encodePart isQueryPoint query) parameters)
        (Percent.encodePart isQueryPoint fragment)
    else
      assembled scheme authority address.path (extendedQuery query parameters) fragment
  if assembled.any CodePoint.isSurrogate then
    .error .unencodable
  else
    .ok (Percent.normalizeAddress assembled)

/-- The host and its surroundings in their usual form, if they have one. -/
def Authority.usual (authority : Authority) : Except HostProblem Authority := do
  let host ← Host.usual authority.host
  return {
    user := authority.user.map (Percent.encodePart isUserPoint)
    host := host
    port := authority.port
  }

/-- What makes an address unreadable that has a certain host. -/
def orUnparsable {Result : Type} : Except HostProblem Result → Except Fault Result
  | .ok result =>
      .ok result
  | .error problem =>
      .error (unparsable problem.message)

/-- The host of an address and its surroundings, in their usual form if addresses have one. -/
def authorityOf (url : Text) (address : Address) (written : Text) : Except Fault Authority := do
  let authority ← orUnparsable (readAuthority written)
  if authority.port.any fun port => greatestPort < port then
    throw (unparsable url)
  else if address.scheme.all isWebScheme then
    orUnparsable authority.usual
  else
    return authority

/-- The host of an address, if the address has one that is in its form. -/
def hostOf (url : Text) (address : Address) : Except Fault (Option Authority) :=
  match address.authority with
  | none =>
      .ok none
  | some [] =>
      .ok none
  | some written =>
      (address.authorityOf url written).map some

/-- The host that is asked, which may have been named with characters beyond ASCII. -/
def askedHost (url host : Text) : Except Fault Text :=
  if host.isEmpty then
    .error (hostless url)
  else if DomainLabel.isAscii host then
    if host.startsWith "*" || host.startsWith "." then .error badLabel else .ok host
  else
    match DomainLabel.writtenName? host with
    | some host =>
        .ok host
    | none =>
        .error badLabel

/-- The usual form of an address with a host, with the query of the parameters. -/
def prepareHost
    (url : Text)
    (address : Address)
    (scheme : Text)
    (authority : Authority)
    (parameters : Value) :
    Except Fault Text := do
  let host ← askedHost url authority.host
  let hasQuery := !(address.query.getD []).isEmpty
  let parameters ← Query.ofParameters hasQuery parameters
  complete address scheme { authority with host := host } parameters

/-- The usual form of an address that may be one of the web. -/
def prepareWeb (url : Text) (parameters : Value) : Except Fault Text := do
  let address := ofText url
  let authority ← hostOf url address
  match address.scheme, authority with
  | none, _ =>
      throw (schemeless url)
  | some _, none =>
      throw (hostless url)
  | some scheme, some authority =>
      prepareHost url address scheme authority parameters

/-- An address with a colon that cannot be one of the web. -/
def isForeign (url : Text) : Bool :=
  url.contains (CodePoint.ofChar ':') && !url.asciiLowercase.startsWith "http"

/-- A request can be sent to the address. -/
def isSupported (url : Text) : Bool :=
  let lowered := url.asciiLowercase
  lowered.startsWith "https://" || lowered.startsWith "http://"

/-- The address to which a request with parameters is sent. -/
def prepare (url : Text) (parameters : Value) : Except Fault Text :=
  let url := url.dropWhile CodePoint.isSpace
  if isForeign url then
    .ok url
  else
    prepareWeb url parameters

/-! ## Sending -/

/-- A tab or a line break, which counts for nothing in an address that is sent. -/
def isInvisible (point : CodePoint) : Bool :=
  point.value = 9 || point.value = 10 || point.value = 13

/-- The address without what counts for nothing in it. -/
def visible (url : Text) : Text :=
  (url.dropWhile fun point => point.value ≤ 0x20).filter fun point => !isInvisible point

/-- The host and its surroundings in an address that is sent. -/
def authorityIn (url : Text) : Text :=
  match Text.dropPrefix? (splitScheme (visible url)).2 "//" with
  | some rest =>
      rest.takeWhile fun point => !point.isOneOf "/?#"
  | none =>
      []

/-- A name and a password are sent in eight bits for each character. -/
def isNarrow (text : Text) : Bool :=
  match Text.ofUtf8? false (Percent.bytesOf text) with
  | some decoded =>
      decoded.all fun point => point.value < 0x100
  | none =>
      false

/-- Who asks gives no password, or one that can be sent together with the name. -/
def hasNarrowUser (authority : Text) : Bool :=
  match splitUser authority with
  | (some user, _) =>
      !user.contains (CodePoint.ofChar ':') || isNarrow user
  | (none, _) =>
      true

/-- A request must be able to reach the host of its address, with the name of who asks. -/
def checkSent (url : Text) : Except Fault Unit :=
  let authority := authorityIn url
  if !Host.hasSoundBrackets authority (splitUser authority).2 || Host.hidesMark authority then
    .error (.badValue .unspecified)
  else if !hasNarrowUser authority then
    .error .unencodable
  else if isSupported url then
    .ok ()
  else
    .error (unsupported url)

end Address

end SessionHandshake
