import Appliance.Hex
import Appliance.Text.Graphic

/-!
# Quoted text

A text or a character shown between quotes, as messages show it: a few characters have a short
escape, graphic characters stand for themselves, and all others are written as their code point in
hexadecimal.
-/

namespace Appliance.Quoted

/-- A character between quotes of a given kind. -/
def escape (quote c : Char) : String :=
  if c = '\x00' then "\\0"
  else if c = '\t' then "\\t"
  else if c = '\r' then "\\r"
  else if c = '\n' then "\\n"
  else if c = '\\' then "\\\\"
  else if c = quote then String.ofList ['\\', quote]
  else if Graphic.isGraphic c then String.singleton c
  else "\\u\x7b" ++ Hex.ofNat c.toNat ++ "\x7d"

/-- A text between double quotes. -/
def ofString (s : String) : String := "\"" ++ String.join (s.toList.map (escape '"')) ++ "\""

/-- A character between single quotes. -/
def ofChar (c : Char) : String := "'" ++ escape '\'' c ++ "'"

end Appliance.Quoted
