import Issuance.Encoding.Pem
import Issuance.Hash.Sha1
import Issuance.Text.Hex
import Issuance.Time.Reader
import Issuance.X509.PublicKey

/-! Certificates and signing requests: which encodings are well formed, and what is read out of them. -/

namespace Issuance.X509

/-- A certificate: its whole encoding and the key it is for. -/
structure Certificate where
  der : Bytes
  subjectKey : EncodedKey
  deriving DecidableEq, Repr

/-- A signing request: the key it is for. -/
structure SigningRequest where
  subjectKey : EncodedKey
  deriving DecidableEq, Repr

/-- A name: sets of attributes in sequence. -/
def name : Der.Reader Unit := do
  let _ ← Der.inside .sequence (Der.all (Der.inside .set (Der.setMembers
    (Der.inside .sequence do
      let _ ← Der.objectId
      let _ ← Der.element))))

/-- The date and time that digits spell, behind a year in the given count of them. -/
def timestamp? (yearDigits : Nat) (contents : Bytes) : Option Moment := do
  let cs := contents.map fun byte => Char.ofNat byte.toNat
  let (year, cs) ← Moment.digits? yearDigits cs
  -- Two digits stand for the years from 1950 to 2049.
  let year := if yearDigits = 4 then year else if year < 50 then 2000 + year else 1900 + year
  let (month, cs) ← Moment.digits? 2 cs
  let (day, cs) ← Moment.digits? 2 cs
  let (hour, cs) ← Moment.digits? 2 cs
  let (minute, cs) ← Moment.digits? 2 cs
  let (second, cs) ← Moment.digits? 2 cs
  if cs = ['Z'] ∧ 1 ≤ day ∧ day ≤ Moment.daysInMonth year month ∧ hour < 24 ∧ minute < 60 ∧
      second < 60 then
    return { year, month, day, hour, minute, second, offset := some 0 }
  else none

/-- A date and time in one of two forms. -/
def time : Der.Reader Moment := do
  let short ← Der.next .utcTime
  let contents ← Der.expect (if short then .utcTime else .generalTime)
  match timestamp? (if short then 2 else 4) contents with
  | some moment => return moment
  | none => failure

/-- One extension, which is critical only if that is said. -/
def extension : Der.Reader Unit := Der.inside .sequence do
  let _ ← Der.objectId
  if ← Der.next .boolean then
    -- What is the default is not written out.
    if !(← Der.boolean) then failure
  let _ ← Der.expect .octetString

/-- The version of a certificate: the first, unless the third is named. -/
def version : Der.Reader Unit := do
  if ← Der.next (.context 0) then
    if (← Der.inside (.context 0) Der.natural) ≠ 2 then failure

/-- The part of a certificate that is signed. -/
def certificateBody : Der.Reader EncodedKey := Der.inside .sequence do
  version
  let _ ← Der.integer
  let _ ← Algorithm.reader
  name
  let _ ← Der.inside .sequence do
    let _ ← time
    let _ ← time
  name
  let key ← EncodedKey.reader
  let _ ← Der.ifNext (.contextPlain 1) (Der.bitString (.contextPlain 1))
  let _ ← Der.ifNext (.contextPlain 2) (Der.bitString (.contextPlain 2))
  let _ ← Der.ifNext (.context 3)
    (Der.inside (.context 3) (Der.inside .sequence (Der.all extension)))
  return key

/-- One attribute of a signing request. -/
def requestAttribute : Der.Reader Unit := Der.inside .sequence do
  let _ ← Der.objectId
  let _ ← Der.inside .set (Der.setMembers Der.element)

/-- The part of a signing request that is signed. -/
def requestBody : Der.Reader EncodedKey := Der.inside .sequence do
  if (← Der.natural) ≠ 0 then failure
  name
  let key ← EncodedKey.reader
  let _ ← Der.inside (.context 0) (Der.setMembers requestAttribute)
  return key

/-- What is signed, with the algorithm and bits of a signature, which is not checked. -/
def signed {α : Type} (body : Der.Reader α) : Der.Reader α := Der.inside .sequence do
  let value ← body
  let _ ← Algorithm.reader
  let _ ← Der.bitString
  return value

namespace Certificate

/-- Reads an encoding that is one certificate and nothing else. -/
def ofDer? (der : Bytes) : Option Certificate :=
  (Der.whole (signed certificateBody) der).map (⟨der, ·⟩)

/-- The labels that blocks of certificates have. -/
def labels : List String := ["CERTIFICATE", "X509 CERTIFICATE"]

/-- Whether a block holds a certificate. -/
def isBlock (block : Pem.Block) : Bool := labels.contains block.label

/-- The certificates in a text, in order; none if a block is malformed. -/
def allOfText? (text : Bytes) : Option (List Certificate) := do
  ((← Pem.blocks? text).filter isBlock).mapM fun block => ofDer? block.contents

/-- The first certificate in a text, all blocks of which have to be well formed. -/
def ofText? (text : Bytes) : Option Certificate := do
  ofDer? (← (← Pem.blocks? text).find? isBlock).contents

/-- A certificate as a block of text. -/
def text (certificate : Certificate) : String := Pem.Block.text ⟨"CERTIFICATE", certificate.der⟩

/-- The fingerprint in the spelling the service searches by. -/
def fingerprint (certificate : Certificate) : String :=
  String.ofList ((Text.hexOfBytes (Sha1.digest certificate.der)).map Char.toUpper)

end Certificate

namespace SigningRequest

/-- Reads an encoding that is one signing request and nothing else. -/
def ofDer? (der : Bytes) : Option SigningRequest :=
  (Der.whole (signed requestBody) der).map (⟨·⟩)

/-- The labels that blocks of signing requests have. -/
def labels : List String := ["CERTIFICATE REQUEST", "NEW CERTIFICATE REQUEST"]

/-- The first signing request in a text, all blocks of which have to be well formed. -/
def ofText? (text : Bytes) : Option SigningRequest := do
  ofDer? (← (← Pem.blocks? text).find? fun block => labels.contains block.label).contents

end SigningRequest

end Issuance.X509
