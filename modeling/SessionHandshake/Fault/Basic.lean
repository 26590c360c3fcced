import SessionHandshake.Fault.Family
import SessionHandshake.Key.Kind
import SessionHandshake.Session.State
import SessionHandshake.Value.Quoted

namespace SessionHandshake

/-!
# Faults

A fault says what went wrong and, where it was raised on account of another
fault, which one that was.  The wording is in one place, `Fault.message?`.
-/

/-- What makes an answer of a server unusable. -/
inductive Malformation where
  | notJson
  | notObject
  | missingField (name : Text)
  | badAccessToken
  | badClientToken
  | uuidNotText (value : Value)
  | badUuid (value : Value)
  | profileNotObject
  | profileMissing (name : Text)
  | badName (value : Value)
  | badProperties
  | reported (message : Text)

/-- The wording of what makes an answer unusable. -/
def Malformation.message : Malformation → Text
  | .notJson =>
      "Response body is not valid JSON!"
  | .notObject =>
      "Response body is not a JSON object!"
  | .missingField name =>
      ("Response is missing the " : Text) ++ name ++ (" field!" : Text)
  | .badAccessToken =>
      "Response contains an invalid accessToken!"
  | .badClientToken =>
      "Response contains an invalid clientToken!"
  | .uuidNotText value =>
      ("Profile UUID must be a string! [value=" : Text) ++ value.quoted ++ ("]" : Text)
  | .badUuid value =>
      ("Invalid profile UUID! [value=" : Text) ++ value.quoted ++ ("]" : Text)
  | .profileNotObject =>
      "Profile is not a JSON object!"
  | .profileMissing name =>
      ("Profile is missing the " : Text) ++ name ++ (" field!" : Text)
  | .badName value =>
      ("Invalid profile name! [value=" : Text) ++ value.quoted ++ ("]" : Text)
  | .badProperties =>
      "Profile properties must be a list of objects!"
  | .reported message =>
      message

/-- What is wrong with a value of the right type. -/
inductive ValueProblem where
  | unspecified
  | digestLength (length : Nat)
  | configurationNotMapping (path : Text)
  | malformedUuid

/-- The wording of what is wrong with a value, where it has one. -/
def ValueProblem.message? : ValueProblem → Option Text
  | .unspecified =>
      none
  | .digestLength length =>
      some (("Expected a 20 byte SHA1 hash, got " : Text) ++ Text.ofNat length ++
        (" bytes!" : Text))
  | .configurationNotMapping path =>
      some (("Configuration file must contain a mapping! [path=" : Text) ++ path ++
        ("]" : Text))
  | .malformedUuid =>
      some "badly formed hexadecimal UUID string"

/-- Why a file could not be read. -/
inductive FileProblem where
  | missing
  | isDirectory
  deriving DecidableEq

/-- What went wrong when random bytes were asked for. -/
inductive RandomProblem where
  | unavailable (length : Value)
  | malformed (length : Value)

/-- The wording of a failure of the random source. -/
def RandomProblem.message : RandomProblem → Text
  | .unavailable length =>
      ("Random source could not supply " : Text) ++ length.shown ++ (" bytes!" : Text)
  | .malformed length =>
      ("Random source returned malformed data! [expected=" : Text) ++ length.shown ++
        (" bytes]" : Text)

/-- What makes a public key unusable. -/
inductive KeyProblem where
  | unreadable
  | unknownAlgorithm
  | notRsa (key : OtherKey)

/-- The wording of what makes a public key unusable. -/
def KeyProblem.message : KeyProblem → Text
  | .unreadable =>
      "Could not parse the server public key as DER!"
  | .unknownAlgorithm =>
      "Unsupported public key algorithm!"
  | .notRsa key =>
      ("Server public key is not an RSA key! [type=" : Text) ++ key.name ++ ("]" : Text)

/-- What made an encryption or a decryption fail. -/
inductive CipherProblem where
  | encryption (plaintextLength : Nat)
  | ciphertextLength (expected got : Nat)
  | decryption

/-- The wording of what made an encryption or a decryption fail. -/
def CipherProblem.message : CipherProblem → Text
  | .encryption length =>
      ("RSA encryption failed! [plaintext=" : Text) ++ Text.ofNat length ++
        (" bytes]" : Text)
  | .ciphertextLength expected got =>
      ("RSA ciphertext has the wrong length! [expected=" : Text) ++ Text.ofNat expected ++
        (", got=" : Text) ++ Text.ofNat got ++ ("]" : Text)
  | .decryption =>
      "RSA decryption failed!"

/-- Why a server's answer counts as a refusal. -/
inductive RefusalReason where
  | credentials (status : Value)
  | refresh (status : Value)
  | signOut (status : Value)
  | unusableAnswer (problem : Malformation)
  | unusableProfile (problem : Malformation)
  | joinForReason (reason : Text)
  | joinWithStatus (status : Value)
  | unverified (username : Value)
  | unconfirmed (username : Value) (answered : Option Value)
  | stated (message : Text)

/-- The wording of why a server's answer counts as a refusal. -/
def RefusalReason.message : RefusalReason → Text
  | .credentials status =>
      ("Authentication server rejected the credentials! [status=" : Text) ++ status.shown ++
        ("]" : Text)
  | .refresh status =>
      ("Token refresh failed! [status=" : Text) ++ status.shown ++ ("]" : Text)
  | .signOut status =>
      ("Sign out failed! [status=" : Text) ++ status.shown ++ ("]" : Text)
  | .unusableAnswer problem =>
      problem.message
  | .unusableProfile problem =>
      ("Authentication response has no usable profile! (" : Text) ++ problem.message ++
        (")" : Text)
  | .joinForReason reason =>
      ("Session server rejected the join! [" : Text) ++ reason ++ ("]" : Text)
  | .joinWithStatus status =>
      ("Session server rejected the join! [status=" : Text) ++ status.shown ++ ("]" : Text)
  | .unverified username =>
      ("Session of " : Text) ++ username.shown ++ (" could not be verified!" : Text)
  | .unconfirmed username answered =>
      ("Session of " : Text) ++ username.shown ++ (" was not confirmed! [profile=" : Text) ++
        (answered.getD .null).shown ++ ("]" : Text)
  | .stated message =>
      message

/-- What the body of a refusal said about it: its short name and its explanation. -/
structure RefusalDetails where
  error : Value
  errorMessage : Value

/-- A refusal about which no body said anything. -/
def RefusalDetails.none : RefusalDetails where
  error := .null
  errorMessage := .null

/--
What went wrong.

The first constructors are failures of single values and of the surroundings;
the others are raised by the handshake itself and name the fault they are
raised on account of, if there is one.
-/
inductive Fault where
  /-- An operation does not take a value of this type. -/
  | wrongType
  /-- A value of this type has no such operation. -/
  | noSuchOperation
  /-- A value has the right type and is not acceptable. -/
  | badValue (problem : ValueProblem)
  /-- Bytes are not text in the expected encoding. -/
  | undecodable
  /-- A text holds a surrogate and has no encoding. -/
  | unencodable
  /-- A mapping has no such key. -/
  | missingKey (key : Value)
  /-- A sequence is too short to have a member at a position. -/
  | missingPosition
  /-- A number is too large to be worked with. -/
  | numberTooLarge
  /-- A nesting is too deep to be followed, or has no end at all. -/
  | tooDeep
  | unreadableFile (problem : FileProblem)
  /-- A configuration file is not in its format. -/
  | badConfiguration
  /-- The system failed, as a random source reports it. -/
  | systemFailure (message : Text)
  /-- Something is not available on this system. -/
  | notAvailable (message : Text)
  /-- A failure that nobody expects. -/
  | unexpected (message : Text)
  /-- A request never got an answer. -/
  | unreachable (message : Text)
  /-- A key is for an algorithm that is not known. -/
  | unknownAlgorithm
  | transport (message : Text) (status body : Value) (cause : Option Fault)
  | malformedResponse (problem : Malformation) (cause : Option Fault)
  | randomSource (problem : RandomProblem) (cause : Option Fault)
  | wrongState (operation : Text) (state : SessionState) (expected : List SessionState)
  | invalidPublicKey (problem : KeyProblem) (cause : Option Fault)
  | encryptionFailed (problem : CipherProblem) (cause : Option Fault)
  | refused
      (refusal : Refusal)
      (reason : RefusalReason)
      (details : RefusalDetails)
      (cause : Option Fault)

instance : Inhabited Fault := ⟨.wrongType⟩

namespace Fault

/-- The family of a fault that the handshake itself raises. -/
def family? : Fault → Option FaultFamily
  | .transport .. =>
      some .transport
  | .malformedResponse .. =>
      some .malformedResponse
  | .randomSource .. =>
      some .randomSource
  | .wrongState .. =>
      some .sessionState
  | .invalidPublicKey .. =>
      some .invalidPublicKey
  | .encryptionFailed .. =>
      some .encryptionFailed
  | .refused refusal _ _ _ =>
      some refusal.family
  | _ =>
      none

/-- The fault on account of which a fault was raised. -/
def cause? : Fault → Option Fault
  | .transport _ _ _ cause =>
      cause
  | .malformedResponse _ cause =>
      cause
  | .randomSource _ cause =>
      cause
  | .invalidPublicKey _ cause =>
      cause
  | .encryptionFailed _ cause =>
      cause
  | .refused _ _ _ cause =>
      cause
  | _ =>
      none

/-- The wording of a fault, where it is the library's own. -/
def message? : Fault → Option Text
  | .badValue problem =>
      problem.message?
  | .systemFailure message =>
      some message
  | .notAvailable message =>
      some message
  | .unexpected message =>
      some message
  | .unreachable message =>
      some message
  | .transport message _ _ _ =>
      some message
  | .malformedResponse problem _ =>
      some problem.message
  | .randomSource problem _ =>
      some problem.message
  | .wrongState operation state expected =>
      some (("Cannot " : Text) ++ operation ++ (" from state " : Text) ++ state.name ++
        ("! [expected=" : Text) ++ Text.joined ", " (expected.map SessionState.name) ++
        ("]" : Text))
  | .invalidPublicKey problem _ =>
      some problem.message
  | .encryptionFailed problem _ =>
      some problem.message
  | .refused _ reason _ _ =>
      some reason.message
  | _ =>
      none

/-- The fault lies in a value of the right type, its encoding included. -/
def isBadValue : Fault → Bool
  | .badValue _ =>
      true
  | .undecodable =>
      true
  | .unencodable =>
      true
  | _ =>
      false

/-- The fault lies in a value, be it of the wrong type or not acceptable. -/
def isBadValueOrType (fault : Fault) : Bool :=
  match fault with
  | .wrongType =>
      true
  | other =>
      other.isBadValue

end Fault

end SessionHandshake
