import Issuance.Text.PrintableTable
import Issuance.Text.Case
import Issuance.Text.Hex

/-! Texts quoted for a message: what has no printed form is escaped. -/

namespace Issuance.Text

/-- Whether a character has a printed form of its own. -/
def isPrintable (c : Char) : Bool :=
  if c.toNat < 128 then 32 ≤ c.toNat && c.toNat < 127
  else !inSpans unprintableSpans c.toNat

/-- One character between quotes of the given kind. -/
def quotedChar (quote c : Char) : List Char :=
  if c = quote ∨ c = '\\' then ['\\', c]
  else if c = '\n' then ['\\', 'n']
  else if c = '\r' then ['\\', 'r']
  else if c = '\t' then ['\\', 't']
  else if isPrintable c then [c]
  else if c.toNat < 0x100 then '\\' :: 'x' :: hexFixed 2 c.toNat
  else if c.toNat < 0x10000 then '\\' :: 'u' :: hexFixed 4 c.toNat
  else '\\' :: 'U' :: hexFixed 8 c.toNat

/-- A text in single quotes, or in double ones if it holds single quotes and no double ones. -/
def quoted (s : String) : String :=
  -- Double quotes are taken only where that spares every escape of a quote.
  let quote := if s.contains '\'' && !s.contains '"' then '"' else '\''
  String.ofList (quote :: s.toList.flatMap (quotedChar quote) ++ [quote])

end Issuance.Text
