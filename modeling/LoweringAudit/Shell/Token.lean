import LoweringAudit.Shell.Source
import LoweringAudit.Text.Digits
/-!
Tokens of the shell: words, operators and redirections. Single quotes keep text as it is, double
quotes keep all but what a dollar sign or a backquote begins, and a backslash keeps one character.
The script in a word is read by a reader that is given.
-/
namespace LoweringAudit.Shell

/-- What ends the text around. -/
inductive Ender where
  | word | quote | brace | sum | document
  deriving DecidableEq, Repr

/-- Where in a word a reader stands. -/
structure Place where
  ender : Ender
  /-- Between double quotes, or where it is as if between them. -/
  inQuotes : Bool
  /-- Between quotes that stand in braces that stand in quotes themselves. -/
  innerQuotes : Bool := false
  /-- Whether a closing brace may be near, so that a backslash before it counts. -/
  inBraces : Bool := false
  inDocument : Bool := false
  /-- In the delimiter of a text below a command nothing is put in. -/
  isDelimiter : Bool := false
  /-- Round brackets that are open in a sum. -/
  depth : Nat := 0
  deriving DecidableEq, Repr

/-- Whether a character ends a word outside quotes. -/
def endsWord (c : Char) : Bool :=
  isBlank c || c == ';' || c == '&' || c == '|' || c == '<' || c == '>' || c == '(' || c == ')'

/-- The parameter of a character that is no part of a name. -/
def specialParameter? : Char → Option Parameter
  | '$' => some .process
  | '#' => some .count
  | '?' => some .status
  | '@' => some .each
  | '*' => some .joined
  | '!' => some .background
  | '-' => some .options
  | _ => none

/-- A number in decimal digits. -/
def decimalNat (digits : List Char) : Nat :=
  Text.natOfDigits 10 digits

/-- Text at the end of the parts read so far, latest part first. -/
def addText (s : List Char) (isKept : Bool) : List Part → List Part
  | .text t k :: rest =>
    if k = isKept then .text (t ++ s) k :: rest else .text s isKept :: .text t k :: rest
  | rest => .text s isKept :: rest

open Reader

/-- What a quote keeps up to the next one. -/
def singleQuoted : Reader (List Char) := do
  let s ← get
  let kept := s.rest.takeWhile (· != '\'')
  skip kept.length
  if (← get).rest.isEmpty then fail .openQuote
  skip 1
  return kept

/-- What stands between backquotes, without the backslashes that keep a backquote from ending it. -/
def backquoted (inQuotes : Bool) : Nat → List Char → Reader (List Char)
  | 0, taken => return taken.reverse
  | n + 1, taken => do
    match ← look with
    | none => fail .openBackquote
    | some '\x60' =>
      skip 1
      return taken.reverse
    | some '\\' =>
      skip 1
      match (← get).rest.head? with
      | some c =>
        skip 1
        if c = '\\' ∨ c = '\x60' ∨ c = '$' ∨ (inQuotes ∧ c = '"') then
          backquoted inQuotes n (c :: taken)
        else backquoted inQuotes n (c :: '\\' :: taken)
      | none => fail .openBackquote
    | some c =>
      skip 1
      backquoted inQuotes n (c :: taken)

/-- Reads a script that a text of its own holds. The texts below its commands are kept. -/
def readNested (script : Reader Script) (text : List Char) : Reader Script := do
  let s ← get
  let inner : Source :=
    { rest := text
      documents := s.documents
      nextDocument := s.nextDocument
      aliases := s.aliases.filter fun a => s.expansions.all (·.name != a.1) }
  match script.run inner with
  | .error e => throw e
  | .ok (body, t) =>
    set { s with documents := t.documents, nextDocument := t.nextDocument }
    return body

/-- The parameter in braces, before anything that is done to it. A character that names none is
skipped, unless it closes the braces. -/
def bracedParameter : Reader (Option Parameter) := do
  match ← look with
  | some c =>
    if isNameStart c then return some (.named (String.ofList (← gather isNameChar)))
    else if c.isDigit then return some (.position (decimalNat (← gather Char.isDigit)))
    else
      match specialParameter? c with
      | some p =>
        skip 1
        return some p
      | none =>
        if c ≠ '}' then skip 1
        return none
  | none => return none

/-- The guard of a character. -/
def guard? : Char → Option Guard
  | '-' => some .orElse
  | '+' => some .whenSet
  | '?' => some .orFail
  | '=' => some .orAssign
  | _ => none

/-- What is done to a parameter in braces, before the word that goes with it. -/
inductive Treatment where
  | none
  | size
  | guarded (guard : Guard) (emptyIsMissing : Bool)
  | trimmed (atEnd longest : Bool)
  | followed
  | unknown

/-- Reads what is done to a parameter. A character that asks for nothing known is skipped. A colon
before the closing brace asks for the value and then, as a word of its own, for all up to the next
closing brace. What comes after is lost. -/
def treatment : Reader Treatment := do
  match ← look with
  | some ':' =>
    skip 1
    let c ← look
    skip 1
    match c.bind guard? with
    | some g => return .guarded g true
    | none => return if c = some '}' then .followed else .unknown
  | some '%' =>
    skip 1
    return .trimmed true (← accept '%')
  | some '#' =>
    skip 1
    return .trimmed false (← accept '#')
  | some '}' => return .none
  | some c =>
    skip 1
    match guard? c with
    | some g => return .guarded g false
    | none => return .unknown
  | none => return .unknown

/-- The parameter between braces and what is done to it. A number sign before a parameter asks for
its size, unless it is itself the parameter. -/
def bracesStart : Reader (Option Parameter × Treatment) := do
  let start ← get
  let plainly : Reader (Option Parameter × Treatment) := do
    match ← bracedParameter with
    | some p => return (some p, ← treatment)
    | none => return (none, .unknown)
  if !(← accept '#') then plainly
  else
    match ← look with
    | some c =>
      if isNameStart c || c.isDigit then
        let p ← bracedParameter
        if (← look) = some '}' then return (p, .size) else return (none, .unknown)
      else
        skip 1
        if c ≠ '}' ∧ (← look) = some '}' then
          match specialParameter? c with
          | some p => return (some p, .size)
          | none => return (none, .unknown)
        else
          set start
          plainly
    | none =>
      set start
      plainly

/-- What follows a character that ends the source too early. -/
def openFault (p : Place) : SyntaxFault :=
  match p.ender with
  | .sum => .openSum
  | .brace => if p.inQuotes ∧ ¬ p.inDocument then .openQuote else .openBrace
  | _ => if p.inDocument then .openBrace else .openQuote

/-- The characters that a backslash keeps where text is as if between quotes. -/
def keepsAfterBackslash (p : Place) (c : Char) : Bool :=
  c == '\\' || c == '\x60' || c == '$' || (c == '"' && !(p.inDocument && !p.inBraces)) ||
    (c == '}' && p.inBraces)

/-- The parts of a word up to what ends it, the parts read before, latest first. -/
def parts (script : Reader Script) : Nat → Place → List Part → Reader Word
  | 0, _, taken => return taken.reverse
  | n + 1, p, taken => do
    let more (part : Part) : Reader Word := parts script n p (part :: taken)
    let literal (s : List Char) : Reader Word := parts script n p (addText s p.inQuotes taken)
    match ← look with
    | none =>
      if p.ender = .word ∨ p.ender = .document then return taken.reverse else fail (openFault p)
    | some c =>
      if p.ender = .word ∧ endsWord c then return taken.reverse
      else if c = '\\' then
        skip 1
        match (← get).rest.head? with
        | none => parts script n p (addText ['\\'] true taken)
        | some d =>
          skip 1
          let kept := if p.inQuotes && !keepsAfterBackslash p d then ['\\', d] else [d]
          parts script n p (addText kept true taken)
      else if c = '\'' ∧ ¬ p.inQuotes then
        skip 1
        let kept ← singleQuoted
        parts script n p (.text kept true :: .mark :: taken)
      else if c = '"' ∧ ¬ p.inQuotes then
        skip 1
        let inside ← parts script n
          { p with ender := .quote, inQuotes := true, inBraces := p.ender = .brace } []
        match inside with
        | [.value .each true] => parts script n p (.value .each true :: taken)
        | inside => parts script n p (inside.reverse ++ .mark :: taken)
      else if c = '"' ∧ p.ender = .quote then
        skip 1
        return taken.reverse
      else if c = '"' ∧ p.ender = .brace then
        skip 1
        parts script n { p with innerQuotes := !p.innerQuotes } (.mark :: taken)
      else if c = '}' ∧ p.ender = .brace ∧ ¬ p.innerQuotes then
        skip 1
        return taken.reverse
      else if c = '(' ∧ p.ender = .sum then
        skip 1
        parts script n { p with depth := p.depth + 1 } (addText [c] true taken)
      else if c = ')' ∧ p.ender = .sum then
        skip 1
        if p.depth = 0 then
          if ← accept ')' then return taken.reverse else literal [c]
        else parts script n { p with depth := p.depth - 1 } (addText [c] true taken)
      else if c = '\x60' ∧ ¬ p.isDelimiter then
        skip 1
        let text ← backquoted p.inQuotes (← bound) []
        more (.output (← readNested script text) p.inQuotes)
      else if c = '$' ∧ ¬ p.isDelimiter then
        skip 1
        match ← look with
        | some '(' =>
          skip 1
          if ← accept '(' then
            let inside ← parts script n
              { ender := .sum, inQuotes := true, inDocument := p.inDocument } []
            more (.sum inside p.inQuotes)
          else
            let s ← get
            set { s with awaited := [] }
            let body ← script
            modify fun t => { t with awaited := s.awaited }
            match (← get).ahead with
            | some (.operator .closing) =>
              modify fun t => { t with ahead := none }
              more (.output body p.inQuotes)
            | t =>
              fail (.unexpected ((t.map Token.label).getD "end of file")
                (some Operator.closing.label))
        | some '{' =>
          skip 1
          let (parameter, treatment) ← bracesStart
          let isPattern := match treatment with
            | .trimmed .. => true
            | _ => false
          let inside : Reader Word := parts script n
            { ender := .brace, inQuotes := p.inQuotes && !isPattern, inBraces := true,
              inDocument := p.inDocument } []
          match parameter, treatment with
          | some x, .none =>
            skip 1
            more (.value x p.inQuotes)
          | some x, .size =>
            skip 1
            more (.size x p.inQuotes)
          | some x, .guarded g e => more (.guarded x g e (← inside) p.inQuotes)
          | some x, .trimmed e l => more (.trimmed x e l (← inside) p.inQuotes)
          | some x, .followed =>
            let word ← inside
            let _ ← parts script n p []
            return taken.reverse ++ .value x p.inQuotes :: word
          | _, _ =>
            let _ ← inside
            more .unreadable
        | some d =>
          if isNameStart d then
            more (.value (.named (String.ofList (← gather isNameChar))) p.inQuotes)
          else if d.isDigit then
            skip 1
            more (.value (.position (decimalNat [d])) p.inQuotes)
          else
            match specialParameter? d with
            | some x =>
              skip 1
              more (.value x p.inQuotes)
            | none => literal ['$']
        | none => literal ['$']
      else
        skip 1
        literal [c]

/-- Whether a part stands for quotes or holds what they keep. -/
def Part.isQuotation : Part → Bool
  | mark => true
  | text _ isKept => isKept
  | value _ inQuotes => inQuotes
  | _ => false

/-- The descriptor and the way of a redirection, after the digit before it. -/
def redirection (digit : Option Nat) (c : Char) : Reader Token := do
  skip 1
  if c = '>' then
    let d := digit.getD 1
    if ← accept '>' then return .redirect d .append false false
    if ← accept '|' then return .redirect d .overwrite false false
    if ← accept '&' then return .redirect d .likeDescriptor false false
    return .redirect d .write false false
  else
    let d := digit.getD 0
    if ← accept '<' then
      let dropsTabs ← accept '-'
      return .redirect d .read true dropsTabs
    if ← accept '&' then return .redirect d .likeDescriptor false false
    if ← accept '>' then return .redirect d .readWrite false false
    return .redirect d .read false false

/-- Blanks and a comment. -/
def skipBlanks : Reader Unit := do
  let _ ← gather fun c => c == ' ' || c == '\t'
  if (← look) = some '#' then
    skip ((← get).rest.takeWhile (· != '\n')).length

/-- A token, read from the source. -/
def readToken (script : Reader Script) (isDelimiter : Bool) : Reader Token := do
  skipBlanks
  let two (c : Char) (double single : Operator) : Reader Token := do
    skip 1
    if ← accept c then return .operator double else return .operator single
  match ← look with
  | none => return .finish
  | some '\n' =>
    skip 1
    return .newLine
  | some '&' => two '&' .both .ampersand
  | some '|' => two '|' .either .bar
  | some ';' => two ';' .doubleSemicolon .semicolon
  | some '(' =>
    skip 1
    return .operator .opening
  | some ')' =>
    skip 1
    return .operator .closing
  | some c =>
    if c = '<' ∨ c = '>' then redirection none c
    else
      let w ← parts script (2 * (← bound))
        { ender := .word, inQuotes := false, isDelimiter := isDelimiter } []
      match w, ← look with
      | [.text [d] false], some e =>
        if d.isDigit ∧ (e = '<' ∨ e = '>') then redirection (some (decimalNat [d])) e
        else return .word w false
      | w, _ => return .word w (w.any Part.isQuotation)

end LoweringAudit.Shell
