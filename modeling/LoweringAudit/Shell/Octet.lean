import LoweringAudit.Text.Utf8
/-!
Texts of the shell. The shell knows octets and no encoding: a character of more octets than one is
as many characters to it. Inside the shell each octet is the character of its number.
-/
namespace LoweringAudit.Shell

def ofOctets (octets : List UInt8) : List Char :=
  octets.map fun b => Char.ofNat b.toNat

def toOctets (s : List Char) : List UInt8 :=
  s.map fun c => c.toNat.toUInt8

/-- A text as the shell has it. -/
def inside (s : String) : String :=
  String.ofList (ofOctets (Utf8.encode s.toList))

/-- A text of the shell as it is outside. -/
def outside (s : String) : String :=
  match Utf8.decode? (toOctets s.toList) with
  | some cs => String.ofList cs
  | none => s

def isBlank (c : Char) : Bool :=
  c == ' ' || c == '\t' || c == '\n'

/-- Whether a character is white space where numbers are read. -/
def isSpace (c : Char) : Bool :=
  c == ' ' || (decide ('\t' ≤ c) && decide (c ≤ '\r'))

/-- Whether a name can begin with a character. -/
def isNameStart (c : Char) : Bool :=
  c.isAlpha || c == '_'

/-- Whether a name can go on with a character. -/
def isNameChar (c : Char) : Bool :=
  c.isAlphanum || c == '_'

/-- Whether a text is the name of a variable. -/
def isName (s : List Char) : Bool :=
  s.head?.any isNameStart && s.all isNameChar

end LoweringAudit.Shell
