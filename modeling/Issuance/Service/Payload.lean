import Issuance.Platform
import Issuance.Text.Literal

/-! The data sent for a record: members under their wire names, absent ones left out. -/

namespace Issuance

mutual

/-- Free-form data as it goes over the wire: numbers that are not finite become null, secrets are masked. -/
def Value.wire : Value → Value
  | .float x => if x.isFinite then .float x else .null
  | .secret s => .text (Literal.mask s)
  | .list items => .list (Value.wireItems items)
  | .record members => .record (Value.wireMembers members)
  | value => value

/-- The items of a list as they go over the wire. -/
def Value.wireItems : List Value → List Value
  | [] => []
  | item :: rest => item.wire :: Value.wireItems rest

/-- The members of a mapping as they go over the wire. -/
def Value.wireMembers : List (String × Value) → List (String × Value)
  | [] => []
  | (key, value) :: rest => (key, value.wire) :: Value.wireMembers rest

end

namespace Payload

/-- A record of the members that are present. -/
def record (members : List (String × Option Value)) : Value :=
  .record (members.filterMap fun (name, value?) => value?.map (name, ·))

/-- A list of texts. -/
def texts (items : List String) : Value := .list (items.map .text)

/-- Free-form data, absent if it is null. -/
def present : Value → Option Value
  | .null => none
  | value => some value.wire

/-- The values of the members of a mapping. -/
def values (members : Members) : List Value := members.map Prod.snd

/-- A wire form, unless free-form data that goes into it has too many levels. -/
def within (freeForm : List Value) (payload : Value) : Except Lapse Value :=
  if freeForm.all (·.levels < Platform.levelLimit) then .ok payload else .error .value

end Payload

end Issuance
