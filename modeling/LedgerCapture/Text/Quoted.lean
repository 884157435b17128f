import LedgerCapture.Text.Visible

/-!
Texts as messages quote them: between double quotes, with quotes, backslashes, the usual control
characters and all that would not show written as escapes.
-/
namespace LedgerCapture.Text

def hexDigits (value : Nat) : String :=
  String.ofList (Nat.toDigits 16 value)

def quoteChar (c : Char) : String :=
  if c == '"' then "\\\""
  else if c == '\\' then "\\\\"
  else if c == '\n' then "\\n"
  else if c == '\r' then "\\r"
  else if c == '\t' then "\\t"
  else if c.toNat == 0 then "\\0"
  else if isVisible c then String.singleton c
  else "\\u\x7b" ++ hexDigits c.toNat ++ "\x7d"

def quote (text : String) : String :=
  text.toList.foldl (fun written c => written ++ quoteChar c) "\"" ++ "\""

end LedgerCapture.Text
