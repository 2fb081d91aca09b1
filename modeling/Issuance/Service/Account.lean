import Issuance.Schema.Check
import Issuance.Service.Payload

/-! Accounts of the certificate service, and the session an account acts in. -/

namespace Issuance

/-- A user of the service. -/
structure User where
  id : String
  username : String := ""
  companyId : Option String := none
  deriving DecidableEq, Repr

/-- The company an account belongs to. -/
structure Company where
  id : String
  name : String := ""
  deriving DecidableEq, Repr

/-- What the service tells of the account behind an API key. -/
structure Account where
  user : Option User := none
  company : Option Company := none
  deriving DecidableEq, Repr

/-- An account together with the API key it acts with. -/
structure Session where
  apiKey : String
  account : Account
  deriving DecidableEq, Repr

namespace User

/-- Reads a user record. -/
def check : Check User := .record fun members =>
  User.mk <$> (field "id").required .text members
    <*> (field "username").withDefault "" .text members
    <*> (fieldOr "companyId" "company_id").optional .text members

/-- The wire form of a user record. -/
def payload (user : User) : Value := Payload.record [
  ("id", some (.text user.id)),
  ("username", some (.text user.username)),
  ("companyId", user.companyId.map .text)]

/-- A user record as data, each member under its name. -/
def data (user : User) : Value := .record [
  ("id", .text user.id),
  ("username", .text user.username),
  ("company_id", .textOrNull user.companyId)]

end User

namespace Company

/-- Reads a company record. -/
def check : Check Company := .record fun members =>
  Company.mk <$> (field "id").required .text members
    <*> (field "name").withDefault "" .text members

/-- The wire form of a company record. -/
def payload (company : Company) : Value := Payload.record [
  ("id", some (.text company.id)),
  ("name", some (.text company.name))]

/-- A company record as data. -/
def data (company : Company) : Value := .record [
  ("id", .text company.id),
  ("name", .text company.name)]

end Company

namespace Account

/-- Reads the answer to an account lookup. -/
def check : Check Account := .record fun members =>
  Account.mk <$> (field "user").optional User.check members
    <*> (field "company").optional Company.check members

/-- The wire form of an account. -/
def payload (account : Account) : Value := Payload.record [
  ("user", account.user.map User.payload),
  ("company", account.company.map Company.payload)]

/-- An account as data. -/
def data (account : Account) : Value := .record [
  ("user", .orNull (account.user.map User.data)),
  ("company", .orNull (account.company.map Company.data))]

end Account

namespace Session

/-- Reads a session. -/
def check : Check Session := .record fun members =>
  Session.mk <$> (field "api_key").required .secret members
    <*> (field "user").required Account.check members

/-- The company the session acts for, if its account has one. -/
def companyId? (session : Session) : Option String := session.account.company.map (·.id)

/-- A session as data; its key stays a secret. -/
def data (session : Session) : Value := .record [
  ("api_key", .secret session.apiKey),
  ("user", session.account.data)]

end Session

end Issuance
