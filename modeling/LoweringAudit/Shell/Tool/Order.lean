import LoweringAudit.Shell.Tool.Basic
/-!
The order of lines under keys, and the program that sorts.
-/
namespace LoweringAudit.Shell.Tool

open Act

/-- The number at the front of a text with its fraction, to be compared. -/
def leadingNumber (s : List Char) : Int :=
  let s := s.dropWhile isBlank
  let (isNegative, s) := match s with
    | '-' :: rest => (true, rest)
    | s => (false, s)
  let whole := s.takeWhile Char.isDigit
  let fraction := match s.drop whole.length with
    | '.' :: rest => rest.takeWhile Char.isDigit
    | _ => []
  let scaled : Int := Text.natOfDigits 10 (whole ++ (fraction.take 18 ++
    List.replicate (18 - fraction.length) '0'))
  if isNegative then -scaled else scaled

/-- How keys are compared. -/
structure KeyOrder where
  isNumeric : Bool := false
  isReverse : Bool := false
  ignoresCase : Bool := false
  skipsBlanks : Bool := false
  deriving DecidableEq, Repr

def KeyOrder.withLetter (o : KeyOrder) (c : Char) : KeyOrder :=
  if c = 'n' ∨ c = 'g' then { o with isNumeric := true }
  else if c = 'r' then { o with isReverse := true }
  else if c = 'f' then { o with ignoresCase := true }
  else if c = 'b' then { o with skipsBlanks := true }
  else o

def compareTexts (a b : List Char) : Ordering :=
  compare (String.ofList a) (String.ofList b)

def KeyOrder.compare (o : KeyOrder) (a b : List Char) : Ordering :=
  let form (s : List Char) : List Char :=
    let s := if o.skipsBlanks then s.dropWhile isBlank else s
    if o.ignoresCase then s.map Char.toUpper else s
  let result := if o.isNumeric then Ord.compare (leadingNumber a) (leadingNumber b)
    else compareTexts (form a) (form b)
  if o.isReverse then result.swap else result

/-- A key: the field and the character where it starts, and those where it ends. -/
structure Key where
  start : Nat × Nat
  finish : Option (Nat × Nat)
  order : KeyOrder
  deriving DecidableEq, Repr

/-- The fields of a line; without a separator a field begins with the blanks before it. -/
def keyFields (separator : Option Char) (line : List Char) : List (List Char) :=
  match separator with
  | some c => line.splitOn c
  | none => line.splitBy fun a b => isBlank a || !isBlank b

/-- The part of a line that a key names. -/
def Key.part (k : Key) (separator : Option Char) (line : List Char) : List Char :=
  let fields := keyFields separator line
  let width := if separator.isSome then 1 else 0
  let offset (n : Nat) : Nat := ((fields.take n).map fun f => f.length + width).foldl (· + ·) 0
  let start := offset (k.start.1 - 1) + (k.start.2 - 1)
  let stop := match k.finish with
    | none => line.length
    | some (f, 0) => offset (f - 1) + ((fields[f - 1]?).getD []).length
    | some (f, c) => offset (f - 1) + c
  (line.take stop).drop start

/-- A key as a flag writes it. -/
def key? (fallback : KeyOrder) (s : String) : Option Key :=
  let place (cs : List Char) : Option ((Nat × Nat) × List Char) :=
    match cs.takeWhile Char.isDigit with
    | [] => none
    | field =>
      match cs.drop field.length with
      | '.' :: rest =>
        let column := rest.takeWhile Char.isDigit
        some ((Text.natOfDigits 10 field, Text.natOfDigits 10 column), rest.drop column.length)
      | rest => some ((Text.natOfDigits 10 field, 0), rest)
  let order (letters : List Char) : KeyOrder :=
    if letters = [] then fallback else letters.foldl KeyOrder.withLetter {}
  match place s.toList with
  | none => none
  | some (start, rest) =>
    let letters := rest.takeWhile (· != ',')
    match rest.drop letters.length with
    | [] => some ⟨start, none, order letters⟩
    | _ :: after =>
      (place after).map fun (finish, more) => ⟨start, some finish, order (letters ++ more)⟩

/-- The order of lines under keys, and at last of the lines themselves. -/
def compareLines (keys : List Key) (separator : Option Char) (last : Option KeyOrder)
    (a b : List Char) : Ordering :=
  let byKeys := keys.foldl
    (fun found k => found.then (k.order.compare (k.part separator a) (k.part separator b))) .eq
  match last with
  | some o => byKeys.then (if o.isReverse then (compareTexts a b).swap else compareTexts a b)
  | none => byKeys

/-- One line of each run of lines that the order does not tell apart. -/
def dropEqual (order : List Char → List Char → Ordering) : List (List Char) → List (List Char)
  | a :: b :: rest =>
    if order a b = .eq then dropEqual order (a :: rest) else a :: dropEqual order (b :: rest)
  | l => l

def sortLines : Tool :=
  withFlags
    { letters := "bcdfgnrusk:t:o:Vzh",
      long := [("numeric-sort", 'n'), ("reverse", 'r'), ("unique", 'u'), ("key", 'k'),
        ("field-separator", 't'), ("ignore-case", 'f'), ("stable", 's'), ("output", 'o')] }
    fun caller chosen paths => do
      let overall := (chosen.flags.map (·.1)).foldl KeyOrder.withLetter {}
      let separator := (chosen.value? 't').bind (·.toList.head?)
      let written := (chosen.flags.reverse.filter (·.1 == 'k')).filterMap fun (_, v) =>
        key? overall v
      let keys := if written.isEmpty then [⟨(1, 0), none, overall⟩] else written
      let isStable := chosen.has 's' || chosen.has 'u'
      let order := compareLines keys separator (if isStable then none else some overall)
      let mut all : List (List Char) := []
      for path in if paths.isEmpty then ["-"] else paths do
        match ← fileOrInput path with
        | .ok text => all := all ++ lines text
        | .error f =>
          let _ ← blame caller ("cannot read: " ++ path ++ ": " ++ f.reason.1)
          return 2
      let sorted := all.mergeSort fun a b => order a b != .gt
      let kept := if chosen.has 'u' then dropEqual order sorted else sorted
      match chosen.value? 'o' with
      | none => emit caller (unlines kept) 0
      | some target =>
        match ← openToWrite target true false false with
        | .error f => blame caller ("open failed: " ++ target ++ ": " ++ f.reason.1)
        | .ok stream =>
          modifySession fun s => { s with descriptors := (1, stream) :: s.descriptors }
          emit caller (unlines kept) 0

end LoweringAudit.Shell.Tool
