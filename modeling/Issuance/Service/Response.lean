import Issuance.Schema.Check
import Issuance.Service.Payload
import Issuance.Json.Reader

/-! Responses of the service as they arrive, and the error records a body may hold. -/

namespace Issuance

/-- A response: its status, the reason given with it, and its body. -/
structure Response where
  status : Int
  reason : String
  body : Bytes
  deriving DecidableEq, Repr

/-- Whether the status tells of success. -/
def Response.isSuccess (response : Response) : Bool :=
  200 ≤ response.status && response.status < 300

/-- One error the service tells of. -/
structure ServiceError where
  code : Int
  message : String := ""
  args : Option (List Value) := none

/-- The errors of a response body. -/
structure ServiceErrors where
  errors : List ServiceError

namespace ServiceError

/-- Reads an error record. -/
def check : Check ServiceError := .record fun members =>
  ServiceError.mk <$> (field "code").required .integer members
    <*> (field "message").withDefault "" .text members
    <*> (field "args").optional (.list .anything) members

/-- The wire form of an error record. -/
def payload (error : ServiceError) : Value := Payload.record [
  ("code", some (.int error.code)),
  ("message", some (.text error.message)),
  ("args", error.args.map fun found => (Value.list found).wire)]

/-- The free-form data of an error record. -/
def freeForm (error : ServiceError) : List Value := error.args.getD []

/-- The wire form of an error record, as far as the platform writes it. -/
def encode (error : ServiceError) : Except Lapse Value :=
  Payload.within error.freeForm error.payload

/-- An error record as data, each member under its name. -/
def data (error : ServiceError) : Value := .record [
  ("code", .int error.code),
  ("message", .text error.message),
  ("args", .orNull (error.args.map .list))]

end ServiceError

namespace ServiceErrors

/-- Reads a body of error records. -/
def check : Check ServiceErrors := .record fun members =>
  ServiceErrors.mk <$> (field "errors").required (.list ServiceError.check) members

/-- The wire form of a body of error records. -/
def payload (found : ServiceErrors) : Value := Payload.record [
  ("errors", some (.list (found.errors.map ServiceError.payload)))]

/-- The free-form data of a body of error records. -/
def freeForm (found : ServiceErrors) : List Value := found.errors.flatMap ServiceError.freeForm

/-- The wire form of a body of error records, as far as the platform writes it. -/
def encode (found : ServiceErrors) : Except Lapse Value :=
  Payload.within found.freeForm found.payload

/-- A body of error records as data. -/
def data (found : ServiceErrors) : Value := .record [
  ("errors", .list (found.errors.map ServiceError.data))]

end ServiceErrors

/-- Reads a body as JSON and checks it; a body that is not JSON is one fault at the whole. -/
def readBody {α : Type} (check : Check α) (body : Bytes) : Validated α :=
  match Json.read? body with
  | some value => check value
  | none => .fault .notJson

/-- The error records of a body, if it is nothing but such records. -/
def serviceErrors? (body : Bytes) : Option (List ServiceError) :=
  -- An error page in another format is no reason to fail: it tells of no errors.
  if body.isEmpty then none
  else (readBody ServiceErrors.check body).toOption.map (·.errors)

end Issuance
