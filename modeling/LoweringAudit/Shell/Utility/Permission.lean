import LoweringAudit.Shell.Utility.Basic
import LoweringAudit.Text.Digits
/-!
What new files and directories allow. Permissions are three bits for each of three kinds of users; a
mask takes some away. A mode in writing adds, takes away or sets the bits of some kinds.
-/
namespace LoweringAudit.Shell

open Act

/-- The three bits of a kind of users, for all kinds that have a bit in a number. -/
def spreadOver (users bits : Nat) : Nat :=
  bits % 8 * users

/-- The bit of a letter for a kind of users; the bits that are allowed may matter. -/
def permission? (allowed : Nat) : Char → Option Nat
  | 'r' => some 4
  | 'w' => some 2
  | 'x' => some 1
  | 'u' => some (allowed / 64)
  | 'g' => some (allowed / 8 % 8)
  | 'o' => some (allowed % 8)
  | 'X' => some (if allowed &&& 0o111 = 0 then 0 else 1)
  | 's' => some 0
  | _ => none

def users? : Char → Option Nat
  | 'a' => some 0o111
  | 'u' => some 0o100
  | 'g' => some 0o010
  | 'o' => some 0o001
  | _ => none

/-- The bits that letters stand for together. -/
def joinBits (letters : List Char) (bits : Char → Option Nat) : Nat :=
  (letters.filterMap bits).foldl (· ||| ·) 0

/-- What is allowed once bits have been added, taken away or set for some users. -/
def applyMode (allowed users bits : Nat) : Char → Nat
  | '+' => allowed ||| spreadOver users bits
  | '-' => allowed &&& (0o777 - spreadOver users bits)
  | _ => (allowed &&& (0o777 - spreadOver users 7)) ||| spreadOver users bits

/-- What a mode in writing allows, from what is allowed so far; letters go by what was allowed at
first, and the users named before go on to count until a comma. -/
def modeFrom (first : Nat) : Nat → Nat → Nat → List Char → Option Nat
  | 0, allowed, _, s => if s.isEmpty then some allowed else none
  | n + 1, allowed, before, s =>
    if s.isEmpty then some allowed
    else
      let named := s.takeWhile fun c => (users? c).isSome
      let users := joinBits named users? ||| before
      let users := if users = 0 then 0o111 else users
      match s.drop named.length with
      | [] => some allowed
      | sign :: rest =>
        if !"=+-".toList.contains sign then none
        else
          let letters := rest.takeWhile fun c => (permission? first c).isSome
          let allowed := applyMode allowed users (joinBits letters (permission? first)) sign
          match rest.drop letters.length with
          | [] => some allowed
          | c :: after =>
            if c = ',' then modeFrom first n allowed 0 after
            else if "=+-".toList.contains c then modeFrom first n allowed users (c :: after)
            else none

/-- The mask after a mode in writing. -/
def maskOfMode? (mask : Nat) (mode : String) : Option Nat :=
  let allowed := 0o777 - mask
  (modeFrom allowed (mode.length + 1) allowed 0 mode.toList).map (0o777 - ·)

example : maskOfMode? 0o022 "u=rwx,g=rx,o=" = some 0o027 := by decide +kernel
example : maskOfMode? 0o022 "g=u" = some 0o002 := by decide +kernel

/-- What a mask leaves to one kind of user. -/
def maskLetters (bits : Nat) : String :=
  String.ofList ([(4, 'r'), (2, 'w'), (1, 'x')].filterMap fun (bit, letter) =>
    if (bits / bit) % 2 = 0 then some letter else none)

/-- A mask in octal digits. -/
def maskDigits (mask : Nat) : String :=
  let digits := Nat.toDigits 8 mask
  String.ofList (List.replicate (4 - digits.length) '0' ++ digits)

def setMask : Utility := fun arguments => do
  let (options, arguments) ← optionsOf "S" arguments
  let mask := (← session).mask
  match arguments with
  | [] =>
    if options.isEmpty then say (maskDigits mask ++ "\n")
    else
      say ("u=" ++ maskLetters (mask / 64) ++ ",g=" ++ maskLetters (mask / 8 % 8) ++ ",o=" ++
        maskLetters (mask % 8) ++ "\n")
  | text :: _ =>
    let (new, complaint) :=
      if text.toList.head?.any Char.isDigit then
        (if text.toList.all (Text.isDigitIn 8) then some (Text.natOfDigits 8 text.toList % 512)
          else none, "Illegal number: ")
      else (maskOfMode? mask text, "Illegal mode: ")
    match new with
    | some new =>
      modifySession fun s => { s with mask := new }
      return 0
    | none => fail (complaint ++ text) 2

end LoweringAudit.Shell
