import SessionHandshake.Key.Pair
import SessionHandshake.Proofs.Concatenation
import SessionHandshake.Proofs.Configuration
import SessionHandshake.Proofs.Confirmation
import SessionHandshake.Proofs.Encryption
import SessionHandshake.Proofs.EncryptionResponse
import SessionHandshake.Proofs.JoinRefusal
import SessionHandshake.Proofs.Negation
import SessionHandshake.Proofs.Renewal
import SessionHandshake.Proofs.Serialisation
import SessionHandshake.Proofs.SignedHex
import SessionHandshake.Proofs.SignedNumeral
import SessionHandshake.Proofs.Session.Identification
import SessionHandshake.Proofs.Session.Identity
import SessionHandshake.Proofs.Session.Rejection
import SessionHandshake.Proofs.Session.Secret
import SessionHandshake.Proofs.Session.Transition
import SessionHandshake.Proofs.Session.Carrier
import SessionHandshake.Proofs.Session.Resumption
import SessionHandshake.Proofs.Session.Disclosure
import SessionHandshake.Proofs.Session.Credentials
import SessionHandshake.Proofs.Session.Independence
import SessionHandshake.Proofs.Session.Judgement
import SessionHandshake.Proofs.Session.Drawing
