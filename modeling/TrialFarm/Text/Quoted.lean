import TrialFarm.Text.Visible

/-!
# Quoted text

A text inside a message stands between double quotes. Quotes, backslashes and characters that
leave no mark are escaped, so that the reader of the message sees every character.

## Main definitions

* `escape`: how one character is written.
* `quoted`: a text between quotes.
-/

namespace TrialFarm.Text

/-- A number in base 16. -/
def hexDigits (n : Nat) : String :=
  String.ofList (Nat.toDigits 16 n)

/-- How a character is written between quotes. -/
def escape (c : Char) : String :=
  if c = '"' then "\\\""
  else if c = '\\' then "\\\\"
  else if c = '\n' then "\\n"
  else if c = '\t' then "\\t"
  else if c = '\r' then "\\r"
  else if c.toNat = 0 then "\\0"
  else if isVisible c then c.toString
  else "\\u\x7b" ++ hexDigits c.toNat ++ "\x7d"

/-- A text between quotes, its special characters escaped. -/
def quoted (s : String) : String :=
  "\"" ++ String.join (s.toList.map escape) ++ "\""

end TrialFarm.Text
