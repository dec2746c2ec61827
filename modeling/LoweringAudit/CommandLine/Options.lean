import LoweringAudit.Config.Basic
/-!
The options of the command line. Long options take their value after an equals sign or from the next
argument, which must not look like an option itself; short flags can share one dash. No option may
be given twice, and there are no other arguments. Arguments are read in order: the first thing wrong
ends the reading, and so does the question for help or for the version.
-/
namespace LoweringAudit.CommandLine

/-- The options that have been given. -/
structure Options where
  features : Option String := none
  catalog : Option String := none
  config : Option String := none
  engine : Option EngineKind := none
  format : Option ReportFormat := none
  list : Bool := false
  verbose : Bool := false
  deriving DecidableEq, Repr

/-- The options that take a value. -/
inductive Valued where
  | features | catalog | config | engine | format
  deriving DecidableEq, Repr

/-- How much help is asked for: a line for each option, or all there is to say. -/
inductive Extent where
  | brief | full
  deriving DecidableEq, Repr

/-- The options that take none. -/
inductive Flag where
  | list | verbose | help (extent : Extent) | version
  deriving DecidableEq, Repr

def Valued.ofName? (name : String) : Option Valued :=
  [("features", features), ("catalog", catalog), ("config", config), ("engine", engine),
    ("format", format)].lookup name

def Flag.ofName? (name : String) : Option Flag :=
  [("list", list), ("verbose", verbose), ("help", help .full), ("version", version)].lookup name

def Flag.ofLetter? (letter : Char) : Option Flag :=
  [('v', verbose), ('h', help .brief), ('V', version)].lookup letter

/-- Why reading the arguments ends early. -/
inductive Stop where
  | usage
  | help (extent : Extent)
  | version
  deriving DecidableEq, Repr

/-- Gives an option a value; it must have had none, and the value must be one of its values. -/
def Options.set (o : Options) (option : Valued) (value : String) : Except Stop Options :=
  match option with
  | .features => if o.features.isSome then .error .usage else .ok { o with features := some value }
  | .catalog => if o.catalog.isSome then .error .usage else .ok { o with catalog := some value }
  | .config =>
    if o.config.isSome ∨ value = "" then .error .usage else .ok { o with config := some value }
  | .engine =>
    match o.engine, EngineKind.ofName? value with
    | none, some kind => .ok { o with engine := some kind }
    | _, _ => .error .usage
  | .format =>
    match o.format, ReportFormat.ofName? value with
    | none, some format => .ok { o with format := some format }
    | _, _ => .error .usage

def Options.raise (o : Options) : Flag → Except Stop Options
  | .list => if o.list then .error .usage else .ok { o with list := true }
  | .verbose => if o.verbose then .error .usage else .ok { o with verbose := true }
  | .help extent => .error (.help extent)
  | .version => .error .version

/-- Raises the flags of letters that share a dash. -/
def Options.raiseLetters (o : Options) : List Char → Except Stop Options
  | [] => .ok o
  | c :: rest =>
    match Flag.ofLetter? c with
    | some flag => (o.raise flag).bind fun o => o.raiseLetters rest
    | none => .error .usage

/-- The kinds of argument. -/
inductive Argument where
  /-- Two dashes alone. -/
  | divider
  | long (name : String) (value : Option String)
  | short (letters : List Char)
  | plain (text : String)
  deriving DecidableEq, Repr

/-- A name, and the value after the first equals sign. -/
def splitValue (s : List Char) : String × Option String :=
  match s.dropWhile (· != '=') with
  | _ :: value => (String.ofList (s.takeWhile (· != '=')), some (String.ofList value))
  | [] => (String.ofList s, none)

def Argument.ofText (text : String) : Argument :=
  match text.toList with
  | ['-', '-'] => .divider
  | '-' :: '-' :: rest => .long (splitValue rest).1 (splitValue rest).2
  | '-' :: c :: rest => .short (c :: rest)
  | _ => .plain text

/-- Reads the arguments on from some options; `waiting` is an option that still wants its value. -/
def Options.read (o : Options) (waiting : Option Valued) : List String → Except Stop Options
  | [] => if waiting.isSome then .error .usage else .ok o
  | text :: rest =>
    match Argument.ofText text, waiting with
    | .plain value, some option => (o.set option value).bind fun o => o.read none rest
    | _, some _ => .error .usage
    | .plain _, none => .error .usage
    | .divider, none => if rest = [] then .ok o else .error .usage
    | .short letters, none => (o.raiseLetters letters).bind fun o => o.read none rest
    | .long name value, none =>
      match Valued.ofName? name, Flag.ofName? name, value with
      | some option, _, some value => (o.set option value).bind fun o => o.read none rest
      | some option, _, none => o.read (some option) rest
      | none, some flag, none => (o.raise flag).bind fun o => o.read none rest
      | none, _, _ => .error .usage

def Options.ofArguments (arguments : List String) : Except Stop Options :=
  Options.read {} none arguments

end LoweringAudit.CommandLine
