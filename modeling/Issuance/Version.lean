/-! The version of the program. -/

namespace Issuance

/-- The version, as it is told to those who ask. -/
def version : String := "0.3.0"

end Issuance
