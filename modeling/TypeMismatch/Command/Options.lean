import TypeMismatch.Text.Quoted
import TypeMismatch.Text.Split

/-!
# Command lines

A command line is a list of words: operands, and options that begin with a dash. An option may be
abbreviated as long as one name only begins with it, and has its value in the next word or behind an
equals sign; the text `--` behind the sign is lost as a value. Behind the word `--` everything is an
operand. Numbers with a minus sign, and words with a space in them, are operands too, unless they
are options.

Operands are given to the positions that the command has, as they come. A position may take
everything that is left, options included. Words that fit nowhere are left over; the first word that
cannot be understood ends the reading, and so does the request for help.

Source: `parse_args` of the parsers that `build_parser` and the `main` of the pair command make. The
words are told apart by `classify`, an abbreviation by `candidates`, and `read` goes through them.
-/

namespace TypeMismatch

/-- What an option is for. -/
inductive OptionKind where
  | help
  | flag
  | value
deriving DecidableEq, Repr

/-- An option with its names. -/
structure OptionSpec where
  names : List String
  kind : OptionKind
deriving DecidableEq, Repr

/-- What a command understands. -/
structure CommandSpec where
  program : String
  usage : String
  help : String
  options : List OptionSpec
  positions : List String
  /-- Whether the position takes everything that is left. -/
  takesRest : Bool

/-- Why reading a command line ends early. -/
inductive Stop where
  /-- Help is asked for; this is its text. -/
  | help (text : String)
  /-- The words do not fit the usage; this is the message. -/
  | misuse (message : String)
deriving DecidableEq, Repr

/-- An option as it is given: its specification, the name that is meant, and what is attached. -/
structure OptionMatch where
  spec : OptionSpec
  name : String
  attached : Option (List Char)
deriving DecidableEq, Repr

/-- A word of a command line. An operand that was lost among separators has no text. -/
inductive Word where
  | operand (text : Option String)
  | separator
  | option (text : String) (isKnown : Option OptionMatch)
deriving DecidableEq, Repr

/-- What has been read of a command line: options with their values, operands, and words that are
left over. An operand that is only a further separator has no text, nor has a value that was
lost. -/
structure Reading where
  given : List (String × Option String)
  operands : List (Option String)
  extras : List String

namespace CommandSpec

/-- The end of reading for words that do not fit. -/
def misuse (spec : CommandSpec) (message : String) : Stop :=
  .misuse (spec.usage ++ spec.program ++ ": error: " ++ message ++ "\n")

/-- The end of reading for an option that does not fit. -/
def optionMisuse (spec : CommandSpec) (o : OptionSpec) (message : String) : Stop :=
  spec.misuse ("argument " ++ String.intercalate "/" o.names ++ ": " ++ message)

/-- The end of reading for an option that takes no text and has one attached. -/
def attachedMisuse (spec : CommandSpec) (o : OptionSpec) (text : List Char) : Stop :=
  spec.optionMisuse o ("ignored explicit argument " ++ String.ofList (Text.quoteChars text))

/-- All names of options with their options. -/
def names (spec : CommandSpec) : List (String × OptionSpec) :=
  spec.options.flatMap fun o => o.names.map fun n => (n, o)

/-- The options that a word could mean if it is none exactly. -/
def candidates (spec : CommandSpec) (word : String) : List OptionMatch :=
  match word.toList with
  | '-' :: '-' :: rest =>
    let (start, attached) := match Text.cut? '=' ('-' :: '-' :: rest) with
      | some (start, text) => (start, some text)
      | none => ('-' :: '-' :: rest, none)
    (spec.names.filter fun n => start.isPrefixOf n.1.toList).map fun n => ⟨n.2, n.1, attached⟩
  | cs =>
    spec.names.filterMap fun n =>
      if n.1.toList == cs.take 2 then some ⟨n.2, n.1, some (cs.drop 2)⟩
      else if cs.isPrefixOf n.1.toList then some ⟨n.2, n.1, none⟩
      else none

/-- Whether a word is a number with a minus sign, with or without a point. -/
def isNegativeNumber (word : List Char) : Bool :=
  let body := if word.getLast? == some '\n' then word.dropLast else word
  match body with
  | '-' :: rest =>
    match Text.cut? '.' rest with
    | none => !rest.isEmpty && rest.all Text.isDigit
    | some (whole, fraction) =>
      whole.all Text.isDigit && !fraction.isEmpty && fraction.all Text.isDigit
  | _ => false

/-- What a word is. -/
def classify (spec : CommandSpec) (word : String) : Except Stop Word :=
  match word.toList with
  | [] => .ok (.operand (some word))
  | c :: cs =>
    if c != '-' then .ok (.operand (some word))
    else
      match spec.names.lookup word with
      | some o => .ok (.option word (some ⟨o, word, none⟩))
      | none =>
        if cs.isEmpty then .ok (.operand (some word))
        else
          let exact := do
            let (start, text) ← Text.cut? '=' (c :: cs)
            let name := String.ofList start
            let o ← spec.names.lookup name
            some (OptionMatch.mk o name (some text))
          match exact with
          | some m => .ok (.option word (some m))
          | none =>
            match spec.candidates word with
            | [m] => .ok (.option word (some m))
            | [] =>
              if isNegativeNumber (c :: cs) || cs.contains ' ' then .ok (.operand (some word))
              else .ok (.option word none)
            | ms =>
              .error (spec.misuse ("ambiguous option: " ++ word ++ " could match "
                ++ String.intercalate ", " (ms.map (·.name))))

/-- What the words of a command line are. Behind the separator all are operands. -/
def classifyAll (spec : CommandSpec) : List (Option String) → Except Stop (List Word)
  | [] => .ok []
  | none :: words => do
    let ws ← spec.classifyAll words
    pure (.operand none :: ws)
  | some word :: words =>
    if word = "--" then .ok (.separator :: words.map .operand)
    else do
      let w ← spec.classify word
      let ws ← spec.classifyAll words
      pure (w :: ws)

end CommandSpec

namespace Word

/-- The word as it was given, if it was not lost. -/
def text : Word → Option String
  | operand s => s
  | separator => some "--"
  | option s _ => some s

/-- Whether a word is an option. -/
def isOption : Word → Bool
  | option _ _ => true
  | _ => false

/-- Words without separators at their start. -/
def dropSeparators (ws : List Word) : List Word := ws.dropWhile (· == separator)

/-- The next operand, and the words behind it. One separator around it belongs to it; without one,
an operand that looks like a separator is lost. -/
def takeOperand? (ws : List Word) : Option (Option String × List Word) :=
  match dropSeparators ws with
  | operand s :: rest =>
    let behind := dropSeparators rest
    let guarded := ws.head? == some separator || behind.length < rest.length
    some (if s = some "--" && !guarded then none else s, behind)
  | _ => none

/-- As many operands as there are positions, and the words behind them. -/
def takeOperands : Nat → List Word → List (Option String) × List Word
  | 0, ws => ([], ws)
  | n + 1, ws =>
    match takeOperand? ws with
    | some (s, ws) =>
      let (ss, ws) := takeOperands n ws
      (s :: ss, ws)
    | none => ([], ws)

/-- Everything that is left, if an operand comes first. -/
def takeRest (ws : List Word) : List (Option String) × List Word :=
  match dropSeparators ws with
  | operand _ :: _ => (ws.map text, [])
  | _ => ([], ws)

end Word

namespace CommandSpec

/-- The operands at the start of the words, for the positions that are left. -/
def takePositions (spec : CommandSpec) (left : Nat) (ws : List Word) :
    List (Option String) × List Word :=
  if spec.takesRest then if left = 0 then ([], ws) else Word.takeRest ws
  else Word.takeOperands left ws

/-- Whether a name of an option is a single letter behind a dash. -/
def isShort (name : String) : Bool := !"--".toList.isPrefixOf name.toList

/-- The end that a short request for help comes to, with a row of letters attached to it that ask
for help again. -/
def rowStop (spec : CommandSpec) (o : OptionSpec) : List Char → Stop
  | [] => .help spec.help
  | c :: cs =>
    if o.names.contains (String.ofList ['-', c]) then rowStop spec o cs
    else spec.attachedMisuse o (c :: cs)

/-- The end that a request for help comes to, with text attached to it or not. -/
def helpStop (spec : CommandSpec) (m : OptionMatch) : Stop :=
  match m.attached with
  | none => .help spec.help
  | some text =>
    if isShort m.name && !text.isEmpty then spec.rowStop m.spec text
    else spec.attachedMisuse m.spec text

/-- The value that a text behind an equals sign is. -/
def attachedValue (text : List Char) : Option String :=
  if text = ['-', '-'] then none else some (String.ofList text)

/-- An option that is given, with its value, and the words behind it. -/
def takeOption (spec : CommandSpec) (m : OptionMatch) (ws : List Word) :
    Except Stop ((String × Option String) × List Word) :=
  match m.spec.kind, m.attached with
  | .help, _ => .error (spec.helpStop m)
  | .flag, none => .ok ((m.name, none), ws)
  | .flag, some text => .error (spec.attachedMisuse m.spec text)
  | .value, some text => .ok ((m.name, attachedValue text), ws)
  | .value, none =>
    match ws with
    | .operand s :: ws => .ok ((m.name, s), ws)
    | _ => .error (spec.optionMisuse m.spec "expected one argument")

/-- Reads words, with so many positions left. Every step takes at least one word, and `fuel` bounds
the number of steps. -/
def readWords (spec : CommandSpec) : Nat → Nat → Reading → List Word → Except Stop Reading
  | 0, _, r, _ => .ok r
  | fuel + 1, left, r, ws =>
    let (operands, behind) := spec.takePositions left ws
    let r' := { r with operands := r.operands ++ operands }
    let left' := left - operands.length
    if !ws.any Word.isOption then .ok { r' with extras := r'.extras ++ behind.filterMap Word.text }
    else
      match ws with
      | [] => .ok r
      | .option text none :: ws =>
        spec.readWords fuel left { r with extras := r.extras ++ [text] } ws
      | .option _ (some m) :: ws => do
        let (g, ws) ← spec.takeOption m ws
        spec.readWords fuel left { r with given := r.given ++ [g] } ws
      | w :: ws =>
        if !operands.isEmpty then
          spec.readWords fuel (if spec.takesRest then 0 else left') r' behind
        else spec.readWords fuel left { r with extras := r.extras ++ w.text.toList } ws

/-- Reads a command line. All positions must be filled. -/
def read (spec : CommandSpec) (words : List (Option String)) : Except Stop Reading := do
  let ws ← spec.classifyAll words
  let r ← spec.readWords (ws.length + 1) spec.positions.length ⟨[], [], []⟩ ws
  match spec.positions.drop r.operands.length with
  | [] => pure r
  | missing =>
    .error (spec.misuse
      ("the following arguments are required: " ++ String.intercalate ", " missing))

end CommandSpec
end TypeMismatch
