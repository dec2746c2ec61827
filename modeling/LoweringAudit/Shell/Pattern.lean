import LoweringAudit.Regex.Basic
import LoweringAudit.Shell.Octet
/-!
Patterns of the shell. `*` stands for any text, `?` for a character and brackets for one of a set;
what quotes keep stands for itself. A pattern is a regular expression in another writing, so that
its matches are what that expression reaches.
-/
namespace LoweringAudit.Shell

/-- A character of a word, and the traces of quotes. -/
inductive Glyph where
  | plain (c : Char)
  /-- Kept by quotes. -/
  | kept (c : Char)
  /-- Quotes stood here. -/
  | mark
  deriving DecidableEq, Repr

namespace Glyph

def char? : Glyph → Option Char
  | plain c => some c
  | kept c => some c
  | mark => none

/-- The text of glyphs. -/
def text (gs : List Glyph) : List Char :=
  gs.filterMap char?

end Glyph

namespace Pattern

def classes : List (String × List (Char × Char)) :=
  [("alnum", [('0', '9'), ('A', 'Z'), ('a', 'z')]), ("alpha", [('A', 'Z'), ('a', 'z')]),
    ("blank", [('\t', '\t'), (' ', ' ')]), ("cntrl", [('\x00', '\x1f'), ('\x7f', '\x7f')]),
    ("digit", [('0', '9')]), ("graph", [('!', '~')]), ("lower", [('a', 'z')]),
    ("print", [(' ', '~')]),
    ("punct", [('!', '/'), (':', '@'), ('[', '\x60'), ('{', '~')]),
    ("space", [('\t', '\r'), (' ', ' ')]), ("upper", [('A', 'Z')]),
    ("xdigit", [('0', '9'), ('A', 'F'), ('a', 'f')])]

/-- The class that glyphs name between colons, and what follows its closing bracket. -/
def namedClass? : List Glyph → Option (CharSet × List Glyph)
  | .plain ':' :: rest =>
    let name := rest.takeWhile (· != .plain ':')
    match rest.drop name.length with
    | .plain ':' :: .plain ']' :: after =>
      (classes.lookup (String.ofList (Glyph.text name))).map fun ranges =>
        (.ofRanges ranges, after)
    | _ => none
  | _ => none

/-- The members of a set up to its closing bracket, which may itself be the first member. -/
def members (isFirst : Bool) (set : CharSet) : Nat → List Glyph → Option (CharSet × List Glyph)
  | 0, _ => none
  | _, [] => none
  | n + 1, .mark :: rest => members isFirst set n rest
  | n + 1, .plain '[' :: rest =>
    match namedClass? rest with
    | some (named, after) => members false (.join set named) n after
    | none => single n '[' rest
  | n + 1, .plain ']' :: rest => if isFirst then single n ']' rest else some (set, rest)
  | n + 1, .plain c :: rest => single n c rest
  | n + 1, .kept c :: rest => single n c rest
where
  /-- A character, or a range that begins with it. -/
  single (n : Nat) (c : Char) (rest : List Glyph) : Option (CharSet × List Glyph) :=
    match rest with
    | .plain '-' :: .plain ']' :: _ => members false (.join set (.single c)) n rest
    | .plain '-' :: .plain d :: after => members false (.join set (.range c d)) n after
    | .plain '-' :: .kept d :: after => members false (.join set (.range c d)) n after
    | _ => members false (.join set (.single c)) n rest

/-- The set in brackets, without its opening one, and what follows it. -/
def bracket? (gs : List Glyph) : Option (CharSet × List Glyph) :=
  match gs with
  | .plain c :: rest =>
    if c = '!' ∨ c = '^' then
      (members true .empty (rest.length + 1) rest).map fun (s, after) => (s.complement, after)
    else members true .empty (gs.length + 1) gs
  | _ => members true .empty (gs.length + 1) gs

/-- The expression of a pattern; the bound is its length. -/
def regexFrom : Nat → List Glyph → Regex
  | 0, _ => .empty
  | _, [] => .empty
  | n + 1, .mark :: rest => regexFrom n rest
  | n + 1, .kept c :: rest => .seq (.one (.single c)) (regexFrom n rest)
  | n + 1, .plain c :: rest =>
    if c = '*' then .seq (.repeated (.one .all) 0 none) (regexFrom n rest)
    else if c = '?' then .seq (.one .all) (regexFrom n rest)
    else if c = '[' then
      match bracket? rest with
      | some (s, after) => .seq (.one s) (regexFrom n after)
      | none => .seq (.one (.single c)) (regexFrom n rest)
    else .seq (.one (.single c)) (regexFrom n rest)

def regex (gs : List Glyph) : Regex :=
  regexFrom gs.length gs

/-- Whether a text as a whole has the form of a pattern. -/
def fits (gs : List Glyph) (s : List Char) : Bool :=
  ((regex gs).reach s.toArray [0]).contains s.length

/-- Whether a pattern can fit anything but its own text. -/
def isOpen (gs : List Glyph) : Bool :=
  gs.any fun g => g == .plain '*' || g == .plain '?' || g == .plain '['

/-- A text without the shortest or the longest start that fits. -/
def dropStart (gs : List Glyph) (longest : Bool) (s : List Char) : List Char :=
  let reached := (regex gs).reach s.toArray [0]
  match if longest then reached.max? else reached.min? with
  | some n => s.drop n
  | none => s

/-- A text without the shortest or the longest end that fits. -/
def dropEnd (gs : List Glyph) (longest : Bool) (s : List Char) : List Char :=
  let r := regex gs
  let text := s.toArray
  let starts := (List.range (s.length + 1)).filter fun i => (r.reach text [i]).contains s.length
  match if longest then starts.min? else starts.max? with
  | some n => s.take n
  | none => s

end Pattern

end LoweringAudit.Shell
