import SparkLog.Text.Printable
import SparkLog.Decimal.Basic

/-!
# Quoted text

Text inside a listing or an error message is quoted: single quotes stand around it unless it
holds a single quote and no double quote. The quote in use, backslashes and characters that are
not printable are escaped.
-/

namespace SparkLog.Text

/-- A number as lower-case hexadecimal digits, padded with zeros to a width. -/
def hexChars (width n : Nat) : List Char :=
  let body := Nat.toDigits 16 n
  List.replicate (width - body.length) '0' ++ body

/-- One character inside quotes. -/
def quoteChar (quote c : Char) : List Char :=
  if c = quote ∨ c = '\\' then ['\\', c]
  else if c = '\n' then ['\\', 'n']
  else if c = '\r' then ['\\', 'r']
  else if c = '\t' then ['\\', 't']
  else if isPrintable c then [c]
  else if c.toNat < 0x100 then '\\' :: 'x' :: hexChars 2 c.toNat
  else if c.toNat < 0x10000 then '\\' :: 'u' :: hexChars 4 c.toNat
  else '\\' :: 'U' :: hexChars 8 c.toNat

/-- Text in quotes. -/
def quoted (text : String) : String :=
  let cs := text.toList
  let quote := if cs.contains '\'' && !cs.contains '"' then '"' else '\''
  String.ofList (quote :: (cs.flatMap (quoteChar quote) ++ [quote]))

end SparkLog.Text
