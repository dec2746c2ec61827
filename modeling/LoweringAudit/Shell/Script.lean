import LoweringAudit.Shell.Token
/-!
Scripts of the shell. A script is read line by line: a line of commands is run before the next one
is read. Compound commands hold scripts, which are read by the same reader with a lower bound on
nesting.
-/
namespace LoweringAudit.Shell

open Reader

/-- The words that are read as a part of the grammar where a command may begin. -/
def keywords : List String :=
  ["!", "case", "do", "done", "elif", "else", "esac", "fi", "for", "if", "in", "then", "until",
    "while", "\x7b", "\x7d"]

/-- The utilities whose names no function can have. -/
def specialUtilities : List String :=
  [".", ":", "break", "continue", "eval", "exec", "exit", "export", "local", "readonly", "return",
    "set", "shift", "times", "trap", "unset"]

/-- Whether a token can stand after the commands of a body. -/
def Token.endsBody : Token → Bool
  | operator o => o == .closing || o == .doubleSemicolon
  | keyword k => k ∈ ["do", "done", "elif", "else", "esac", "fi", "then", "\x7d"]
  | finish => true
  | _ => false

/-- How a body ends. -/
inductive Extent where
  /-- At the end of a line. -/
  | line
  /-- At a token that ends a body, after a command at least. -/
  | filled
  /-- At a token that ends a body. -/
  | any
  deriving DecidableEq, Repr

/-- A reader of bodies. -/
abbrev BodyReader := Extent → Reader Script

/-- A line and what follows it. -/
def splitLine (s : List Char) : List Char × Option (List Char) :=
  match s.dropWhile (· != '\n') with
  | [] => (s, none)
  | _ :: rest => (s.takeWhile (· != '\n'), some rest)

/-- Whether the end of a line is kept from ending it. -/
def isJoined (line : List Char) : Bool :=
  ((line.reverse.takeWhile (· == '\\')).length % 2 == 1)

/-- The text up to the line of its delimiter, and what follows that line. -/
def documentText (a : Awaited) : Nat → Bool → List Char → List Char × List Char
  | 0, _, s => ([], s)
  | n + 1, isContinued, s =>
    if s = [] then ([], [])
    else
      let (line, rest) := splitLine s
      let line := if a.dropsTabs && !isContinued then line.dropWhile (· == '\t') else line
      if !isContinued ∧ line = a.delimiter then ([], rest.getD [])
      else
        match rest with
        | none => (line, [])
        | some rest =>
          let (more, rest) := documentText a n (!a.isRaw && isJoined line) rest
          (line ++ '\n' :: more, rest)

/-- Reads the texts that are awaited, below the line that has just ended. -/
def readDocuments (script : Reader Script) : Reader Unit := do
  let s ← get
  set { s with awaited := [] }
  for a in s.awaited do
    let s ← get
    let (text, rest) := documentText a (s.rest.length + 1) false s.rest
    let line := s.line + (s.rest.take (s.rest.length - rest.length)).count '\n'
    if a.isRaw then
      let document : Word := [.text text true]
      set { s with rest := rest, line := line, documents := (a.number, document) :: s.documents }
    else
      set { s with rest := text }
      let w ← parts script (2 * text.length + 2)
        { ender := .document, inQuotes := true, inDocument := true } []
      modify fun t =>
        { t with rest := rest, line := line, documents := (a.number, w) :: t.documents }

/-- The keyword that a token is, where keywords are looked for. -/
def Token.withKeyword (t : Token) : Token :=
  match t with
  | .word w false =>
    match Word.bare? w with
    | some s => if String.ofList s ∈ keywords then .keyword (String.ofList s) else t
    | none => t
  | t => t

/-- Which tokens are looked for besides words. -/
structure Sought where
  keywords : Bool := false
  /-- Line ends before the token are passed over. -/
  passesLines : Bool := false
  isDelimiter : Bool := false
  /-- A short name gives way to its text. -/
  aliases : Bool := false
  deriving DecidableEq, Repr

namespace Sought

/-- Where a command begins, perhaps on a later line. -/
def command : Sought := ⟨true, true, false, true⟩

/-- Where a command begins on this line. -/
def sameLine : Sought := ⟨true, false, false, true⟩

/-- Where the patterns of an arm begin. -/
def arm : Sought := ⟨true, true, false, false⟩

end Sought

/-- The next token, or the one that was given back. -/
def rawToken (script : Reader Script) (isDelimiter : Bool) : Reader Token := do
  let s ← get
  match s.ahead with
  | some t =>
    set { s with ahead := none }
    return t
  | none => readToken script isDelimiter

/-- A token that is no line end. The texts below each line are read. -/
def passLines (script : Reader Script) (isDelimiter : Bool) : Nat → Token → Reader Token
  | n + 1, .newLine => do
    readDocuments script
    passLines script isDelimiter n (← rawToken script isDelimiter)
  | _, t => return t

/-- The next token. A word after the text of a short name that ends with a blank may be a short
name as well. -/
def nextToken (script : Reader Script) (sought : Sought) : Reader Token := do
  let rec read : Nat → Bool → Reader Token
    | 0, _ => return .finish
    | n + 1, aliases => do
      let before ← get
      let t ← rawToken script sought.isDelimiter
      let t ← if sought.passesLines then passLines script sought.isDelimiter (← bound) t
        else pure t
      let s ← get
      set s.settle
      let crossed := before.expansions.any fun e =>
        e.reachesOn && decide (e.left < before.rest.length) && decide (s.rest.length < e.left)
      let aliases := aliases || crossed
      match if sought.keywords then t.withKeyword else t with
      | .word w false =>
        let s ← get
        let text := (if aliases then Word.bare? w else none).bind fun name =>
          (s.alias? (String.ofList name)).map (String.ofList name, ·)
        match text with
        | some (name, text) =>
          modify (·.expand name text)
          read n aliases
        | none => return .word w false
      | t => return t
  read (← bound) sought.aliases

/-- Gives a token back, to be read again. -/
def putBack (t : Token) : Reader Unit :=
  modify fun s => { s with ahead := some t }

/-- Fails at a token. -/
def failAt (t : Token) (expecting : Option String) : Reader α :=
  fail (.unexpected t.label expecting)

/-- The name and the value of a word that sets a variable. -/
def assignment? : Word → Option (String × Word)
  | .text s false :: rest =>
    let name := s.takeWhile (· != '=')
    match s.drop name.length with
    | _ :: value =>
      if isName name then
        some (String.ofList name, if value = [] then rest else .text value false :: rest)
      else none
    | [] => none
  | _ => none

/-- The text of a word as it was written, if nothing is put into it. -/
def Word.plain? (w : Word) : Option (List Char) :=
  (w.mapM fun
    | Part.text s _ => some s
    | Part.mark => some []
    | _ => none).map List.flatten

/-- A text whose delimiter a word is, to be read when the line ends. -/
def awaitDocument (w : Word) (isQuoted dropsTabs : Bool) : Reader Nat := do
  let s ← get
  let a : Awaited := ⟨s.nextDocument, (Word.plain? w).getD [], isQuoted, dropsTabs⟩
  set { s with awaited := s.awaited ++ [a], nextDocument := s.nextDocument + 1 }
  return a.number

/-- The word of a redirection. -/
def redirectWord (script : Reader Script) (descriptor : Nat) (channel : Channel)
    (isText dropsTabs : Bool) : Reader Redirect := do
  match ← nextToken script { isDelimiter := isText } with
  | .word w isQuoted =>
    if isText then
      return .mk descriptor (.document (← awaitDocument w isQuoted dropsTabs)) []
    else return .mk descriptor channel w
  | t => failAt t none

/-- The redirections after a compound command. -/
def redirects (script : Reader Script) (keywords : Bool) : Nat → Reader (List Redirect)
  | 0 => return []
  | n + 1 => do
    match ← nextToken script { keywords := keywords, aliases := keywords } with
    | .redirect d c isText dropsTabs =>
      let r ← redirectWord script d c isText dropsTabs
      return r :: (← redirects script false n)
    | t =>
      putBack t
      return []

/-- What has been read of a simple command. -/
structure Begun where
  line : Nat
  assignments : List (String × Word) := []
  words : List (Word × Bool) := []
  redirects : List Redirect := []

def Begun.command (b : Begun) : Command :=
  .simple b.line b.assignments (b.words.map (·.1)) b.redirects

/-- The name in a definition of a function. -/
def functionName (w : Word × Bool) : Reader String := do
  match Word.bare? w.1 with
  | some s =>
    if isName s ∧ String.ofList s ∉ specialUtilities then return String.ofList s
    else fail .badFunctionName
  | none => fail .badFunctionName

/-- A simple command, or the definition of a function. -/
def simpleCommand (script : Reader Script) (command : Reader Command) :
    Nat → Begun → Reader Command
  | 0, b => return b.command
  | n + 1, b => do
    match ← nextToken script { aliases := b.words.isEmpty } with
    | .word w isQuoted =>
      match if b.words.isEmpty then assignment? w else none with
      | some a => simpleCommand script command n { b with assignments := b.assignments ++ [a] }
      | none => simpleCommand script command n { b with words := b.words ++ [(w, isQuoted)] }
    | .redirect d c isText dropsTabs =>
      let r ← redirectWord script d c isText dropsTabs
      simpleCommand script command n { b with redirects := b.redirects ++ [r] }
    | .operator .opening =>
      match b with
      | ⟨_, [], [w], []⟩ =>
        match ← nextToken script {} with
        | .operator .closing =>
          let name ← functionName w
          return .define name (← command)
        | t => failAt t (some Operator.closing.label)
      | b =>
        putBack (.operator .opening)
        return b.command
    | t =>
      putBack t
      return b.command

/-- The keyword that must come next. -/
def demand (script : Reader Script) (word : String) (sought : Sought) : Reader Unit := do
  match ← nextToken script sought with
  | .keyword k => if k = word then return () else failAt (.keyword k) (some (quotedWord word))
  | t => failAt t (some (quotedWord word))

/-- The words before the next other token, and that token. -/
def wordsBefore (script : Reader Script) : Nat → Reader (List Word × Token)
  | 0 => return ([], .finish)
  | n + 1 => do
    match ← nextToken script {} with
    | .word w _ =>
      let (ws, t) ← wordsBefore script n
      return (w :: ws, t)
    | t => return ([], t)

/-- All arguments, as a loop without values has them. -/
def allArguments : Word := [.value .each true]

/-- What follows the name of a loop over values, up to its body. -/
def loopValues (script : Reader Script) : Reader (List Word) := do
  match ← nextToken script .command with
  | .keyword "in" =>
    let (ws, t) ← wordsBefore script (← bound)
    match t with
    | .newLine => putBack .newLine
    | .operator .semicolon => return ws
    | t => failAt t none
    return ws
  | .operator .semicolon => return [allArguments]
  | t =>
    putBack t
    return [allArguments]

/-- The word that a token is as a pattern. A token that is none fits nothing. -/
def Token.pattern : Token → Word
  | word w _ => w
  | keyword k => [.text k.toList false]
  | _ => [.mark]

/-- The patterns of an arm, with bars between them, after the first token of them. -/
def patterns (script : Reader Script) : Nat → Token → Reader (List Word)
  | 0, _ => return []
  | n + 1, t => do
    match ← nextToken script {} with
    | .operator .bar => return t.pattern :: (← patterns script n (← nextToken script {}))
    | .operator .closing => return [t.pattern]
    | other => failAt other (some Operator.closing.label)

/-- The arms of a choice, and the keyword that ends it. -/
def arms (body : BodyReader) : Nat → Reader (List Arm)
  | 0 => return []
  | n + 1 => do
    let script := body .any
    match ← nextToken script .arm with
    | .keyword "esac" => return []
    | t =>
      let first ← match t with
        | .operator .opening => nextToken script {}
        | t => pure t
      let ps ← patterns script (← bound) first
      let b ← body .any
      match ← nextToken script .command with
      | .keyword "esac" => return [.mk ps b]
      | .operator .doubleSemicolon => return .mk ps b :: (← arms body n)
      | t => failAt t (some Operator.doubleSemicolon.label)

/-- What follows `if` or `elif`. -/
def branches (body : BodyReader) : Nat → Reader Command
  | 0 => return .group []
  | n + 1 => do
    let script := body .any
    let test ← body .filled
    demand script "then" {}
    let yes ← body .filled
    match ← nextToken script {} with
    | .keyword "elif" => return .branch test yes [← branches body n]
    | .keyword "else" =>
      let no ← body .filled
      demand script "fi" {}
      return .branch test yes no
    | .keyword "fi" => return .branch test yes []
    | t => failAt t (some (quotedWord "fi"))

/-- A compound command after the token that begins it, or none if the token begins none. -/
def compound (body : BodyReader) (line : Nat) (t : Token) : Reader (Option Command) := do
  let script := body .any
  match t with
  | .keyword "if" => return some (← branches body (← bound))
  | .keyword "while" =>
    let test ← body .filled
    demand script "do" {}
    let b ← body .filled
    demand script "done" {}
    return some (.loop false test b)
  | .keyword "until" =>
    let test ← body .filled
    demand script "do" {}
    let b ← body .filled
    demand script "done" {}
    return some (.loop true test b)
  | .keyword "for" =>
    match ← nextToken script {} with
    | .word w false =>
      match Word.bare? w with
      | some name =>
        if !isName name then fail .badLoopVariable
        let values ← loopValues script
        demand script "do" .command
        let b ← body .filled
        demand script "done" {}
        return some (.each line (String.ofList name) values b)
      | none => fail .badLoopVariable
    | _ => fail .badLoopVariable
  | .keyword "case" =>
    match ← nextToken script {} with
    | .word w _ =>
      demand script "in" .command
      return some (.choice line w (← arms body (← bound)))
    | t => failAt t (some "word")
  | .operator .opening =>
    let b ← body .filled
    match ← nextToken script {} with
    | .operator .closing => return some (.apart line b [])
    | t => failAt t (some Operator.closing.label)
  | .keyword "\x7b" =>
    let b ← body .filled
    demand script "\x7d" {}
    return some (.group b)
  | _ => return none

/-- A command with its redirections. -/
def command (body : BodyReader) : Nat → Sought → Reader Command
  | 0, _ => return .group []
  | n + 1, sought => do
    let script := body .any
    let line := (← get).line
    let t ← nextToken script sought
    match t with
    | .word .. | .redirect .. =>
      putBack t
      simpleCommand script (command body n .command) (← bound)
        { line := (← get).line }
    | t =>
      match ← compound body line t with
      | none => failAt t none
      | some c =>
        match c, ← redirects script true (← bound) with
        | c, [] => return c
        | .apart line b _, rs => return .apart line b rs
        | c, rs => return .redirected line c rs

/-- Commands with bars between them, or one command that may be negated. -/
def pipeline (body : BodyReader) (sought : Sought) : Reader Command := do
  let script := body .any
  let rec stages : Nat → Reader (List Command)
    | 0 => return []
    | n + 1 => do
      match ← nextToken script {} with
      | .operator .bar =>
        let c ← command body (← bound) .command
        return c :: (← stages n)
      | t =>
        putBack t
        return []
  let t ← nextToken script sought
  let isNegated := match t with
    | .keyword "!" => true
    | _ => false
  if !isNegated then putBack t
  let first ← command body (← bound) .sameLine
  let c ← match ← stages (← bound) with
    | [] => pure first
    | others => pure (.pipeline (first :: others))
  return if isNegated then .negated c else c

/-- Pipelines joined by `&&` and `||`, from left to right. -/
def joined (body : BodyReader) : Reader Command := do
  let rec go : Nat → Command → Reader Command
    | 0, c => return c
    | n + 1, c => do
      match ← nextToken (body .any) {} with
      | .operator .both => go n (.both c (← pipeline body .command))
      | .operator .either => go n (.either c (← pipeline body .command))
      | t =>
        putBack t
        return c
  go (← bound) (← pipeline body .sameLine)

/-- Commands up to where their extent says, those read before given latest first. A line ends at its
line end; a body goes on over lines. -/
def commands (body : BodyReader) (extent : Extent) : Nat → List Command → Reader Script
  | 0, cs => return cs.reverse
  | n + 1, cs => do
    let script := body .any
    let isLine := extent = .line
    match ← nextToken script ⟨true, !isLine, false, true⟩ with
    | .newLine =>
      readDocuments script
      return cs.reverse
    | .finish =>
      readDocuments script
      putBack .finish
      return cs.reverse
    | t =>
      putBack t
      let mayEnd := extent = .any ∨ (extent = .filled ∧ ¬ cs.isEmpty)
      if mayEnd ∧ t.endsBody then return cs.reverse
      let c ← joined body
      let t ← nextToken script {}
      let c := match t with
        | .operator .ampersand => .background c
        | _ => c
      match t with
      | .finish =>
        readDocuments script
        putBack .finish
        return (c :: cs).reverse
      | .newLine =>
        putBack .newLine
        commands body extent n (c :: cs)
      | .operator .ampersand => commands body extent n (c :: cs)
      | .operator .semicolon => commands body extent n (c :: cs)
      | t =>
        if isLine then failAt t none
        putBack t
        return (c :: cs).reverse

/-- Reads a body in which nesting goes no deeper than a bound. -/
def bodyReader : Nat → BodyReader
  | 0 => fun _ => do failAt (← readToken (pure []) false) none
  | n + 1 => fun extent => do commands (bodyReader n) extent (← bound) []

/-- The commands of the next line, if there is one. -/
def Source.nextLine (s : Source) : Except (SyntaxFault × Nat) (Option Script × Source) :=
  let reader : Reader (Option Script) := do
    let body ← bodyReader s.room .line
    match (← get).ahead with
    | some .finish => return if body.isEmpty then none else some body
    | _ => return some body
  reader.run s

/-- A text into which values are put as between double quotes, if it can be read. -/
def Source.document (text : String) : Option Word :=
  let reader : Reader Word :=
    parts (bodyReader (text.length + 1) .any) (2 * text.length + 2)
      { ender := .document, inQuotes := true, inDocument := true } []
  match reader.run { rest := text.toList } with
  | .ok (w, _) => some w
  | .error _ => none

end LoweringAudit.Shell
