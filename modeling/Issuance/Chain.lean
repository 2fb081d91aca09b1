import Issuance.Dialogue
import Issuance.Request
import Issuance.X509.Certificate

/-! Chains of certificates: taken from a text in the order they stand there, and checked against a signing request. -/

namespace Issuance

namespace Failure

/-- A text that holds no chain of certificates. -/
def unreadableChain : Failure := .decoding ⟨"Failed to parse certificate PEM data", none⟩ []

/-- A signing request, or the certificate to check against it, that cannot be read. -/
def unreadableCsr : Failure := .decoding ⟨"Failed to parse certificate signing request", none⟩ []

/-- A certificate for another key than that of the signing request. -/
def wrongKey (pickupId : Option String) : Failure :=
  .mismatch ⟨"Retrieved certificate does not match the request's public key", pickupId⟩

end Failure

namespace PemCollection

/-- The collection of some certificates, the first of which is the leaf. -/
def ofCertificates? : List X509.Certificate → Option PemCollection
  | [] => none
  | leaf :: chain => some ⟨leaf.text, chain.map X509.Certificate.text⟩

/-- The collection of the certificates in a text, in the order they stand there. -/
def ofText? (text : Bytes) : Option PemCollection := do
  ofCertificates? (← X509.Certificate.allOfText? text)

end PemCollection

namespace CertificateRequest

/-- Whether a certificate carries the key of the signing request; without one, every text does. -/
def accepts? (request : CertificateRequest) (certificate : String) : Option Bool :=
  match request.csr.filter (!·.isEmpty) with
  | none => some true
  | some csr => do
    -- The keys are compared, not their encodings: one key may be written in several ways.
    let csr ← X509.SigningRequest.ofText? (Utf8.encode csr)
    let certificate ← X509.Certificate.ofText? (Utf8.encode certificate)
    return decide ((← csr.subjectKey.key?) = (← certificate.subjectKey.key?))

end CertificateRequest

namespace Chain

/-- The collection in the body of a response, which the service has put in the wanted order. -/
def assemble (body : Bytes) (option : ChainOption) : Run PemCollection :=
  match PemCollection.ofText? body with
  | none => Run.fail .unreadableChain
  | some collection => do
    Run.log .debug "Assembled certificate chain"
      [("blocks", .int collection.blocks.length), ("order", .text option.word)]
    return collection

/-- Checks that the first certificate of a collection was issued for the key of the signing request. -/
def verifyLeaf (request : CertificateRequest) (collection : PemCollection) : Outcome Unit :=
  match request.accepts? collection.certificate with
  | none => .error .unreadableCsr
  | some true => .ok ()
  | some false => .error (.wrongKey request.pickupId)

end Chain

end Issuance
