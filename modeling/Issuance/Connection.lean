import Issuance.Config

/-! How calls are transported: where to, for how long, and with which headers on every one. -/

namespace Issuance

/-- The settings of the transport. -/
structure Connection where
  baseUrl : String
  /-- Seconds until a call is given up. -/
  timeout : Double
  verifyTls : Bool
  headers : List (String × String)
  deriving DecidableEq

namespace Connection

/-- The headers of every call, which is JSON both ways. -/
def standardHeaders : List (String × String) :=
  [("Accept", "application/json"), ("Content-Type", "application/json")]

/-- The transport for a configuration; none if its timeout is beyond all doubles. -/
def ofConfig? (config : Config) : Option Connection :=
  let timeout := Double.ofInt config.timeout
  if timeout.isFinite then
    some ⟨config.baseUrl, timeout, config.verifyTls, standardHeaders⟩
  else none

end Connection

end Issuance
