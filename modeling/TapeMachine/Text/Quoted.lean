import TapeMachine.Text.Printable

/-! Quoted character literals. A character stands between single quotes, as itself where that reads
back, by a short escape where there is one, and by its code in braces otherwise. A double quote needs
no escape here. -/
namespace TapeMachine.Quoted

/-- The code in lower-case hexadecimal, without leading zeros, between braces. -/
def byCode (c : Char) : String :=
  "\\u\x7b" ++ String.ofList (Nat.toDigits 16 c.toNat) ++ "\x7d"

def body (c : Char) : String :=
  if c = '\x00' then "\\0"
  else if c = '\t' then "\\t"
  else if c = '\r' then "\\r"
  else if c = '\n' then "\\n"
  else if c = '\'' then "\\'"
  else if c = '\\' then "\\\\"
  else if isPrintable c then c.toString
  else byCode c

def literal (c : Char) : String :=
  "'" ++ body c ++ "'"

end TapeMachine.Quoted
