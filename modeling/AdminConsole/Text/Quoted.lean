import AdminConsole.Text.Unprintable

/-!
# Quoted texts

How a message shows a text: between double quotes, with an escape for whatever would not be seen
or would end the quotation. -/

namespace AdminConsole.Text

def hexDigits (n : Nat) : String := String.ofList (Nat.toDigits 16 n)

def escapeShown (c : Char) : String :=
  match c with
  | '\x00' => "\\0"
  | '\t' => "\\t"
  | '\r' => "\\r"
  | '\n' => "\\n"
  | '"' => "\\\""
  | '\\' => "\\\\"
  | c => if isUnprintable c then "\\u\x7b" ++ hexDigits c.toNat ++ "\x7d" else c.toString

def quoted (s : String) : String := "\"" ++ String.join (s.toList.map escapeShown) ++ "\""

end AdminConsole.Text
