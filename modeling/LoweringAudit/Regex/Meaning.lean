import LoweringAudit.Regex.Written
import LoweringAudit.Unicode.Folding
import LoweringAudit.Unicode.Property
/-!
What written expressions mean. Flags hold from where they are set up to the end of the group around
them, across the branches of a choice. Where Unicode is switched off an expression must not describe
octets that are no whole character.
-/
namespace LoweringAudit.Regex

structure Flags where
  ignoresCase : Bool := false
  /-- Lines have starts and ends, not only the text. -/
  byLine : Bool := false
  /-- The point stands for line ends too. -/
  dotAll : Bool := false
  /-- A carriage return ends a line too. -/
  returnsEnd : Bool := false
  isUnicode : Bool := true
  deriving DecidableEq, Repr

namespace Flags

def set (f : Flags) (letter : Char) (isOn : Bool) : Flags :=
  match letter with
  | 'i' => { f with ignoresCase := isOn }
  | 'm' => { f with byLine := isOn }
  | 's' => { f with dotAll := isOn }
  | 'R' => { f with returnsEnd := isOn }
  | 'u' => { f with isUnicode := isOn }
  | _ => f

def change (f : Flags) (changes : FlagChanges) : Flags :=
  changes.foldl (fun f (letter, isOn) => f.set letter isOn) f

/-- The set with what is equal to its members where case is ignored. -/
def fold (f : Flags) (s : CharSet) : CharSet :=
  if f.ignoresCase then if f.isUnicode then Unicode.fold s else s.folded else s

/-- A set without Unicode must hold ASCII only. -/
def check (f : Flags) (place : Span) (s : CharSet) : Except Fault CharSet :=
  if f.isUnicode || s.isAscii then .ok s else .error ⟨.octetsAlone, place, none⟩

/-- A set with its case and its negation. -/
def finish (f : Flags) (place : Span) (isNegated : Bool) (s : CharSet) : Except Fault CharSet :=
  f.check place (if isNegated then (f.fold s).complement else f.fold s)

def wordSet (f : Flags) : CharSet :=
  if f.isUnicode then Unicode.wordSet else .asciiWord

def classSet (f : Flags) : LetterClass → CharSet
  | .digit => if f.isUnicode then Unicode.digitSet else .range '0' '9'
  | .space => if f.isUnicode then Unicode.whiteSpace else .ofRanges [('\t', '\r'), (' ', ' ')]
  | .word => f.wordSet

/-- Without Unicode an octet outside ASCII is no character. -/
def octet (f : Flags) (l : Letter) : Except Fault Unit :=
  if f.isUnicode || !l.isOctet || decide (l.char.toNat < 0x80) then .ok ()
  else .error ⟨.octetsAlone, l.place, none⟩

/-- A character in a set, where only ASCII may stand without Unicode. -/
def member (f : Flags) (l : Letter) : Except Fault Char := do
  f.octet l
  if f.isUnicode || decide (l.char.toNat < 0x80) then return l.char
  else throw ⟨.unicodeOff, l.place, none⟩

def property (f : Flags) (place : Span) (isNegated : Bool) (name : List Char) :
    Except Fault CharSet :=
  if f.isUnicode then
    match Unicode.find (.read name) with
    | .ok s => f.finish place isNegated s
    | .error .property => .error ⟨.propertyUnknown, place, none⟩
    | .error .value => .error ⟨.propertyValueUnknown, place, none⟩
  else .error ⟨.unicodeOff, place, none⟩

/-- The characters that a point stands for; without Unicode it is an octet. -/
def point (f : Flags) (place : Span) : Except Fault CharSet :=
  if !f.isUnicode then .error ⟨.octetsAlone, place, none⟩
  else if f.dotAll then .ok .all
  else if f.returnsEnd then .ok (CharSet.ofChars ['\n', '\r']).complement
  else .ok (CharSet.single '\n').complement

def anchor (f : Flags) : Condition → Anchor
  | .textStart => .textStart
  | .textEnd => .textEnd
  | .lineStart => if f.byLine then if f.returnsEnd then .returnStart else .lineStart else .textStart
  | .lineEnd => if f.byLine then if f.returnsEnd then .returnEnd else .lineEnd else .textEnd
  | .word place => .word place f.wordSet

end Flags

def SetOperator.apply : SetOperator → CharSet → CharSet → CharSet
  | meet, a, b => a.meet b
  | without, a, b => a.without b
  | differ, a, b => a.differ b

mutual

/-- The set that an item means under some flags. -/
def SetItem.set (f : Flags) : SetItem → Except Fault CharSet
  | .empty _ => return .empty
  | .letter l => return .single (← f.member l)
  | .range low high => return .range (← f.member low) (← f.member high)
  | .ascii place isNegated s => f.finish place isNegated s
  | .named place isNegated c =>
    f.check place (if isNegated then (f.classSet c).complement else f.classSet c)
  | .property place isNegated name => f.property place isNegated name
  | .bracketed place isNegated inside => do f.finish place isNegated (← inside.set f)
  | .items _ list => setOfItems f list
  | .operation _ o left right => do
    let a ← left.set f
    let b ← right.set f
    return o.apply (f.fold a) (f.fold b)

def setOfItems (f : Flags) : List SetItem → Except Fault CharSet
  | [] => return .empty
  | item :: rest => do
    let s ← item.set f
    return s.join (← setOfItems f rest)

end

/-- What depends on the flags set up so far, and may set up others. -/
abbrev Flagged := StateT Flags (Except Fault)

mutual

/-- The expression that is meant. -/
def Written.meaning : Written → Flagged Regex
  | .empty _ => return .empty
  | .flags _ changes => do
    modify (·.change changes)
    return .empty
  | .letter l => do
    let f ← get
    f.octet l
    return .one (f.fold (.single l.char))
  | .point place => do return .one (← (← get).point place)
  | .condition _ c => do return .anchor ((← get).anchor c)
  | .set s => do return .one (← s.set (← get))
  | .repeated _ a least most => do return .repeated (← a.meaning) least most
  | .group _ changes a => do
    let outer ← get
    modify (·.change (changes.getD []))
    let r ← a.meaning
    set outer
    return if changes.isNone then .group r else r
  | .alt _ branches => meaningOfBranches branches
  | .seq _ items => meaningOfItems items

def meaningOfBranches : List Written → Flagged Regex
  | [] => return .one .empty
  | [w] => w.meaning
  | w :: rest => do
    let r ← w.meaning
    return .alt r (← meaningOfBranches rest)

def meaningOfItems : List Written → Flagged Regex
  | [] => return .empty
  | [w] => w.meaning
  | w :: rest => do
    let r ← w.meaning
    return .seq r (← meaningOfItems rest)

end

end LoweringAudit.Regex
