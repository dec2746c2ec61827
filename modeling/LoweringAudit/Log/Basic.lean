import LoweringAudit.Text.Terminal
/-!
Log entries. The parts of the program say what they do at five levels of weight; who reads decides
which entries are shown. An entry is written without control sequences of a terminal, whatever its
message holds.
-/
namespace LoweringAudit.Log

inductive Level where
  | error | warn | info | debug | trace
  deriving DecidableEq, Repr

namespace Level

/-- The weightiest level has the least rank. -/
def rank : Level → Nat
  | error => 1
  | warn => 2
  | info => 3
  | debug => 4
  | trace => 5

def name : Level → String
  | error => "error"
  | warn => "warn"
  | info => "info"
  | debug => "debug"
  | trace => "trace"

/-- The level as it stands in a written entry, five characters wide. -/
def column : Level → String
  | error => "ERROR"
  | warn => "WARN "
  | info => "INFO "
  | debug => "DEBUG"
  | trace => "TRACE"

def all : List Level := [error, warn, info, debug, trace]

end Level

/-- The part of the program that speaks. -/
inductive Speaker where
  | program | config | lowering | command | verifier
  deriving DecidableEq, Repr

def Speaker.name : Speaker → String
  | program => "lowercheck"
  | config => "lowercheck::config"
  | lowering => "lowercheck::lowering"
  | command => "lowercheck::lowering::command"
  | verifier => "lowercheck::driver"

structure Entry where
  level : Level
  speaker : Speaker
  message : String
  deriving DecidableEq, Repr

/-- Line ends, each with four blanks after it. -/
def indented (text : String) : String :=
  String.ofList (text.toList.flatMap fun c => if c = '\n' then "\n    ".toList else [c])

/-- An entry with its line end. Lines of the message after its first are indented. -/
def Entry.line (e : Entry) : String :=
  "[" ++ e.level.column ++ " " ++ e.speaker.name ++ "] " ++ indented e.message ++ "\n"

/-- An entry as it is written. A control sequence that is not finished may take the line end. -/
def Entry.render (e : Entry) : String :=
  String.ofList (Text.plain e.line.toList)

/-- The messages of one level, in order. -/
def messagesAt (level : Level) (log : List Entry) : List String :=
  (log.filter (·.level == level)).map Entry.message

end LoweringAudit.Log
