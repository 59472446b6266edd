import RecordQuery.Text.Character

/-! A text made visible: in double quotes, with every character that would not show written as an
escape. -/

namespace RecordQuery.Text

/-- The digits of a number in base sixteen, in lower case. -/
def hexDigits (n : Nat) : String :=
  String.ofList (Nat.toDigits 16 n)

/-- One character as it stands between double quotes. -/
def visibleChar (c : Char) : String :=
  if c = '"' then "\\\""
  else if c = '\\' then "\\\\"
  else if c = '\n' then "\\n"
  else if c = '\r' then "\\r"
  else if c = '\t' then "\\t"
  else if c.toNat = 0 then "\\0"
  else if isPrintable c && !extendsGrapheme c then String.singleton c
  else "\\u\x7b" ++ hexDigits c.toNat ++ "\x7d"

/-- The text in double quotes, its invisible characters escaped. -/
def visible (text : String) : String :=
  "\"" ++ String.join (text.toList.map visibleChar) ++ "\""

end RecordQuery.Text
