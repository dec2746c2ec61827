import LoweringAudit.Text.Hidden
/-!
Texts as log messages quote them: between double quotes, with the quote, the backslash and the
hidden characters escaped. Lists stand between square brackets and sets between braces.
-/
namespace LoweringAudit.Text

/-- A number in lower-case hexadecimal digits. -/
def hexadecimal (n : Nat) : List Char :=
  Nat.toDigits 16 n

def quoteChar (c : Char) : List Char :=
  match c with
  | '\x00' => ['\\', '0']
  | '\t' => ['\\', 't']
  | '\n' => ['\\', 'n']
  | '\r' => ['\\', 'r']
  | '"' => ['\\', '"']
  | '\\' => ['\\', '\\']
  | c => if isHidden c then ['\\', 'u', '{'] ++ hexadecimal c.toNat ++ ['}'] else [c]

def quoted (s : String) : String :=
  String.ofList ('"' :: s.toList.flatMap quoteChar ++ ['"'])

def quotedList (items : List String) : String :=
  "[" ++ ", ".intercalate (items.map quoted) ++ "]"

def quotedSet (items : List String) : String :=
  "\x7b" ++ ", ".intercalate (items.map quoted) ++ "\x7d"

end LoweringAudit.Text
