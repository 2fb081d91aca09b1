import Issuance.Text.Case
import Issuance.Value

/-! Log events without credentials: what stands under a secret key, and every secret, is masked. -/

namespace Issuance.Redaction

/-- What is written in place of a credential. -/
def mask : Value := .text "**********"

/-- The keys, in lower case, that credentials are logged under. -/
def secretKeys : List String := ["api_key", "apikey", "tppl-api-key", "authorization", "password"]

/-- Whether a key names a credential, in any case. -/
def isSecretKey (key : String) : Bool := secretKeys.contains (Text.lower key)

mutual

/-- The value of a key, masked as a whole or within the mappings it holds; lists are left as they are. -/
def redactValue (key : String) (value : Value) : Value :=
  -- A secret key masks whatever stands under it, a whole mapping included.
  if isSecretKey key then mask
  else match value with
    | .secret _ => mask
    | .record members => .record (redactMembers members)
    | other => other

/-- Members, each masked under its own key. -/
def redactMembers : List (String × Value) → List (String × Value)
  | [] => []
  | (key, value) :: rest => (key, redactValue key value) :: redactMembers rest

end

/-- The key of an event's own text. -/
def eventKey : String := "event"

/-- An event without credentials; its own text is left as it is. -/
def redact (event : Members) : Members :=
  event.map fun (key, value) => (key, if key = eventKey then value else redactValue key value)

end Issuance.Redaction
