import InstallerSetup.Text.Printable

/-!
# Quoted texts in messages

A message that cites a text puts it between double quotes. Quotes and backslashes get a backslash,
the usual control characters have short names, and every other character that is not printable is
shown by its code, as in `\u{1b}`.
-/

namespace InstallerSetup.Text

def hex (n : Nat) : String := String.ofList (Nat.toDigits 16 n)

def quotedChar (c : Char) : String :=
  if c = '\x00' then "\\0"
  else if c = '\t' then "\\t"
  else if c = '\r' then "\\r"
  else if c = '\n' then "\\n"
  else if c = '\x22' then "\\\""
  else if c = '\\' then "\\\\"
  else if isPrintable c then String.singleton c
  else "\\u\x7b" ++ hex c.toNat ++ "\x7d"

def quoted (s : String) : String :=
  "\"" ++ String.join (s.toList.map quotedChar) ++ "\""

end InstallerSetup.Text
