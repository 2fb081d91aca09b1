import Issuance.Failure
import Issuance.Service.Account
import Issuance.Service.Application

/-! What a response means: a typed value if it has the expected status, a failure otherwise. -/

namespace Issuance

/-- The outcome of a computation that can fail. -/
abbrev Outcome (α : Type) := Except Failure α

namespace Failure

/-- A status that an operation does not expect. -/
def unexpectedStatus (operation : String) (response : Response) : Failure :=
  .refused .unexpected ⟨"Unexpected status code on " ++ operation, none⟩ (.ofResponse response)

/-- A body that is not what an operation answers with. -/
def unreadableBody (operation : String) (faults : List Fault) : Failure :=
  .decoding ⟨"Failed to parse " ++ operation ++ " response", none⟩ faults

/-- An API key that the service does not know. -/
def invalidApiKey (response : Response) : Failure :=
  .authentication ⟨"Invalid API key",
    some ("user account lookup returned " ++ toString response.status ++ " " ++ response.reason)⟩

/-- An application that the service does not know. -/
def applicationNotFound (application : String) : Failure :=
  .notFound ⟨"Application '" ++ application ++ "' not found", none⟩ (some "application")
    (some application)

/-- An application that the account may not read. -/
def applicationForbidden (application : String) : Failure :=
  .authentication ⟨"Not authorized to read application", some application⟩

end Failure

/-- Reads the body of an operation's answer. -/
def decodeBody {α : Type} (check : Check α) (operation : String) (body : Bytes) : Outcome α :=
  match readBody check body with
  | .valid value => .ok value
  | .invalid faults => .error (.unreadableBody operation faults)

namespace Response

/-- Reads an operation's answer, which succeeds with one status only. -/
def decode {α : Type} (response : Response) (check : Check α) (operation : String)
    (expected : Int := 200) : Outcome α :=
  if response.status = expected then decodeBody check operation response.body
  else .error (.unexpectedStatus operation response)

/-- Reads the answer to an account lookup. -/
def decodeAccount (response : Response) : Outcome Account :=
  if response.status = 401 then .error (.invalidApiKey response)
  else response.decode Account.check "user account lookup"

/-- Reads the answer to the lookup of an application by its name. -/
def decodeApplication (response : Response) (application : String) : Outcome Application :=
  if response.status = 400 ∨ response.status = 404 then .error (.applicationNotFound application)
  else if response.status = 401 then .error (.applicationForbidden application)
  else response.decode Application.check "application lookup"

end Response

end Issuance
