import LoweringAudit.Log.Basic
import LoweringAudit.Regex.Parse
import LoweringAudit.Text.Ascii
import LoweringAudit.Text.Blank
/-!
Which log entries are shown. A filter has directives, each with the speakers it is for and the
lightest level it lets through; of the directives for a speaker the one with the longest scope
decides. Filters are written as a comma-separated list of `level`, `scope` and `scope=level`; after
a slash there may be a regular expression that a message must hold.
-/
namespace LoweringAudit.Log

structure Directive where
  /-- How the names of the speakers begin; without a scope it is for all of them. -/
  scope : Option String
  /-- The greatest rank let through; zero shuts the speakers up. -/
  ceiling : Nat
  deriving DecidableEq, Repr

/-- Why a filter, or a part of one, makes no sense. -/
inductive SpecFault where
  | item (part : String)
  | slashes (spec : String)
  | pattern (text : String) (fault : Regex.Fault)
  deriving DecidableEq, Repr

def SpecFault.message : SpecFault → String
  | item part => "warning: invalid logging spec '" ++ part ++ "', ignoring it"
  | slashes spec =>
    "warning: invalid logging spec '" ++ spec ++ "' (too many '/'s), ignoring it"
  | pattern text fault =>
    "warning: invalid regex filter - " ++ fault.render text ++ ", ignoring it"

/-- The ceiling that a word sets: the name of a level, or `off`. -/
def ceilingOfWord? (word : List Char) : Option Nat :=
  if Text.sameLetters "off".toList word then some 0
  else (Level.all.find? fun l => Text.sameLetters l.name.toList word).map Level.rank

/-- Everything is let through. -/
def openCeiling : Nat := Level.trace.rank

namespace Directive

/-- The directive of one item, or the part of the item that makes no sense. -/
def ofItem (item : List Char) : Except SpecFault Directive :=
  match item.splitOn '=' with
  | [word] =>
    match ceilingOfWord? word with
    | some ceiling => .ok ⟨none, ceiling⟩
    | none => .ok ⟨some (String.ofList word), openCeiling⟩
  | [scope, level] =>
    if Text.trim level = [] then .ok ⟨some (String.ofList scope), openCeiling⟩
    else
      match ceilingOfWord? (Text.trim level) with
      | some ceiling => .ok ⟨some (String.ofList scope), ceiling⟩
      | none => .error (.item (String.ofList (Text.trim level)))
  | _ => .error (.item (String.ofList item))

def scopeLength (d : Directive) : Nat :=
  (d.scope.getD "").toList.length

def isFor (d : Directive) (speaker : Speaker) : Bool :=
  (d.scope.getD "").toList.isPrefixOf speaker.name.toList

/-- Adds a directive, which takes the place of one with its scope. -/
def place (d : Directive) (ds : List Directive) : List Directive :=
  if ds.any (·.scope == d.scope) then ds.map fun e => if e.scope = d.scope then d else e
  else ds ++ [d]

end Directive

structure Filter where
  directives : List Directive
  /-- What a message must hold to be shown. -/
  pattern : Option Regex := none
  deriving DecidableEq, Repr

namespace Filter

/-- Shows entries up to a level, whoever speaks. -/
def upTo (level : Level) : Filter :=
  { directives := [⟨none, level.rank⟩] }

/-- What the items of a list come to, in order; blank items are passed over. -/
def readItems (list : List Char) : List (Except SpecFault Directive) :=
  ((list.splitOn ',').map Text.trim |>.filter (!·.isEmpty)).map Directive.ofItem

/-- The filter of directives. Without any only errors are shown. -/
def ofDirectives (ds : List Directive) (pattern : Option Regex) : Filter :=
  match ds with
  | [] => { upTo .error with pattern := pattern }
  | ds => ⟨ds.foldl (fun placed d => d.place placed) [], pattern⟩

def fault? : Except SpecFault α → Option SpecFault
  | .ok _ => none
  | .error f => some f

/-- The filter of a list and a pattern, and what is wrong with them. -/
def ofParts (list : List Char) (pattern : Option String) : Filter × List SpecFault :=
  let items := readItems list
  let regex := pattern.map fun p =>
    match Regex.parse p with
    | .ok r => Except.ok r
    | .error f => .error (SpecFault.pattern p f)
  (ofDirectives (items.filterMap Except.toOption) (regex.bind Except.toOption),
    items.filterMap fault? ++ (regex.bind fault?).toList)

/-- The filter in writing, and what is wrong with it. -/
def read (spec : String) : Filter × List SpecFault :=
  match spec.toList.splitOn '/' with
  | [list] => ofParts list none
  | [list, pattern] => ofParts list (some (String.ofList pattern))
  | _ => (upTo .error, [.slashes spec])

/-- Of two directives, the one with the longer scope; the later one of equals. -/
def closer (chosen : Option Directive) (d : Directive) : Option Directive :=
  match chosen with
  | none => some d
  | some c => if c.scopeLength ≤ d.scopeLength then some d else some c

def ceilingFor (filter : Filter) (speaker : Speaker) : Nat :=
  let meant := filter.directives.filter (·.isFor speaker)
  ((meant.foldl closer none).map Directive.ceiling).getD 0

def shows (filter : Filter) (e : Entry) : Bool :=
  decide (e.level.rank ≤ filter.ceilingFor e.speaker) &&
    filter.pattern.all (·.occursIn e.message)

end Filter

end LoweringAudit.Log
