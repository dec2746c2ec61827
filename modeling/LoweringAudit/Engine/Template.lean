import LoweringAudit.Engine.Basic
/-!
Argument templates of a program. Four placeholders stand for the parts of a request; they are
replaced one after the other, so that text put in by an earlier one is read again by a later one.
-/
namespace LoweringAudit

inductive Placeholder where
  | name | kind | elem | features
  deriving DecidableEq, Repr

namespace Placeholder

/-- In the order in which they are replaced. -/
def all : List Placeholder := [name, kind, elem, features]

def word : Placeholder → String
  | name => "{name}"
  | kind => "{kind}"
  | elem => "{elem}"
  | features => "{features}"

def value (r : Request) : Placeholder → String
  | name => r.builtin
  | kind => r.kind.name
  | elem => r.elem.name
  | features => r.features.joined

def fill (r : Request) (text : List Char) (p : Placeholder) : List Char :=
  Text.replace p.word.toList (p.value r).toList text

end Placeholder

namespace Request

def fillTemplate (r : Request) (template : String) : String :=
  String.ofList (Placeholder.all.foldl (Placeholder.fill r) template.toList)

def fillTemplates (r : Request) (templates : List String) : List String :=
  templates.map r.fillTemplate

end Request

end LoweringAudit
