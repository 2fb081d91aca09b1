import Issuance.Text.Case
import Issuance.Text.PathSegment

/-! Where the service is: its base address, the paths of its endpoints, and what goes with every call. -/

namespace Issuance

namespace Address

/-- The host used when none is given. -/
def defaultHost : String := "api.venafi.cloud/"

/-- What follows a prefix, if the text begins with it. -/
def after? : List Char → List Char → Option (List Char)
  | [], cs => some cs
  | _ :: _, [] => none
  | p :: ps, c :: cs => if p = c then after? ps cs else none

/-- A text without a scheme for web addresses in front. -/
def withoutScheme (cs : List Char) : List Char :=
  ((after? "http://".toList cs).or (after? "https://".toList cs)).getD cs

/-- A text with a slash at its end, its own or an added one. -/
def withSlash (cs : List Char) : List Char := if cs.getLast? = some '/' then cs else cs ++ ['/']

/-- The base address for a host or URL: in lower case, over TLS, and ending in a slash. -/
def normalize (url : String) : String :=
  let host := if url.isEmpty then defaultHost else url
  -- Lower case comes first, so that a scheme is found in any spelling.
  String.ofList (withSlash ("https://".toList ++ withoutScheme (Text.lower host).toList))

end Address

namespace Endpoint

/-- The header that carries the API key. -/
def apiKeyHeader : String := "tppl-api-key"

/-- Where the account behind an API key is looked up. -/
def userAccounts : String := "v1/useraccounts"

/-- The path all other endpoints are under. -/
def base : String := "outagedetection/v1/"

/-- Where requests are submitted. -/
def certificateRequests : String := base ++ "certificaterequests"

/-- Where certificates are uploaded. -/
def certificates : String := base ++ "certificates"

/-- Where certificates are searched. -/
def certificateSearch : String := base ++ "certificatesearch"

/-- Where the status of a request is read. -/
def certificateRequest (requestId : String) : String :=
  certificateRequests ++ "/" ++ PathSegment.encode requestId

/-- Where the record of a certificate is read. -/
def certificate (certificateId : String) : String :=
  certificates ++ "/" ++ PathSegment.encode certificateId

/-- Where a certificate itself is read. -/
def certificateContents (certificateId : String) : String :=
  certificate certificateId ++ "/contents"

/-- Where an application is looked up by name. -/
def applicationByName (application : String) : String :=
  base ++ "applications/name/" ++ PathSegment.encode application

/-- Where the issuing template behind an alias is read. -/
def issuingTemplate (application templateAlias : String) : String :=
  base ++ "applications/" ++ PathSegment.encode application ++
    "/certificateissuingtemplates/" ++ PathSegment.encode templateAlias

end Endpoint

end Issuance
