import Issuance.Text.Blank
import Issuance.Text.Quoted
import Issuance.Schema.Check

/-! Zones: an application and, behind a backslash, the alias of one of its issuing templates. -/

namespace Issuance

/-- An application together with a template alias; an empty alias leaves the template to the service. -/
structure Zone where
  application : String
  templateAlias : String := ""
  deriving DecidableEq, Repr

/-- Why a text names no zone. -/
inductive ZoneError where
  /-- Nothing but blanks. -/
  | unspecified
  /-- More than one separator, or nothing before it. -/
  | malformed (zone : String)
  deriving DecidableEq, Repr

/-- The wording of the error. -/
def ZoneError.message : ZoneError → String
  | unspecified => "zone not specified"
  | malformed zone => "invalid zone format: " ++ Text.quoted zone

namespace Zone

/-- The character between application and alias. -/
def separator : Char := '\\'

/-- The parts of a text between separators, at least one. -/
def segments : List Char → List (List Char)
  | [] => [[]]
  | c :: rest =>
    if c = separator then [] :: segments rest
    else match segments rest with
      | [] => [[c]]
      | first :: more => (c :: first) :: more

/-- A segment without blanks at its ends. -/
def trimmed (segment : List Char) : String := String.ofList (Text.trimList Text.isBlank segment)

/-- Reads a zone: one or two segments, the first of which is not blank. -/
def parse (zone : String) : Except ZoneError Zone :=
  if (Text.strip zone).isEmpty then .error .unspecified
  -- Each separator counts, also at an end, so that two of them are always too many.
  else match segments zone.toList with
    | [application] => .ok ⟨trimmed application, ""⟩
    | [application, templateAlias] =>
      if (trimmed application).isEmpty then .error (.malformed zone)
      else .ok ⟨trimmed application, trimmed templateAlias⟩
    | _ => .error (.malformed zone)

/-- The text of a zone; the separator is left out with an empty alias. -/
def text (zone : Zone) : String :=
  if zone.templateAlias.isEmpty then zone.application
  else zone.application ++ String.singleton separator ++ zone.templateAlias

instance : ToString Zone := ⟨text⟩

/-- Reads a zone given by its two parts, which are taken as they are. -/
def check : Check Zone := .record fun members =>
  Zone.mk <$> (field "application_name").required .text members
    <*> (field "template_alias").withDefault "" .text members

/-- A zone as data. -/
def data (zone : Zone) : Value := .record [
  ("application_name", .text zone.application),
  ("template_alias", .text zone.templateAlias)]

end Zone

end Issuance
