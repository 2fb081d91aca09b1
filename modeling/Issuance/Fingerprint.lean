import Issuance.Text.Case

/-! Fingerprints of certificates, in the one spelling the service searches by. -/

namespace Issuance.Fingerprint

/-- A character that may stand between the digits of a fingerprint. -/
def isSeparator (c : Char) : Bool := c == ':' || c == '.'

/-- The fingerprint without separators, in upper case. -/
def normalize (fingerprint : String) : String :=
  Text.upper (String.ofList (fingerprint.toList.filter (!isSeparator ·)))

end Issuance.Fingerprint
