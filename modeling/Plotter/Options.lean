import Plotter.Settings

/-!
# Options

What is chosen for one run is read from the words behind the name of the program and from three
variables of the environment (`Choices.read`).

An option has a long name behind two dashes, some also a letter behind one (`Flag`). Its value is
the next word, or stands behind an equals sign, or directly behind the letter. The words are read
from the left. A value that is a word of its own is looked at only when the next option begins or
the words are over (`WordReading.settle`), so that an unknown word in between is found first. Help
and the version number are given as soon as they are asked for, whatever follows.

A variable counts only for an option that is not among the words; otherwise it is not looked at.

Words and variables are texts. What the system passes on that is no text, a word or a variable with
ill-formed UTF-8, has no place here.
-/

namespace Plotter

open Text

/-- The options that take a value. -/
inductive Flag
  | config
  | host
  | port
  | maxConnections
  | cols
  | rows
  | logLevel
deriving DecidableEq, Repr

namespace Flag

/-- All options, in the order in which they are shown. -/
def all : List Flag := [config, host, port, maxConnections, cols, rows, logLevel]

/-- The long name. -/
def name : Flag → String
  | config => "config"
  | host => "host"
  | port => "port"
  | maxConnections => "max-connections"
  | cols => "cols"
  | rows => "rows"
  | logLevel => "log-level"

/-- The letter, where there is one. -/
def letter? : Flag → Option Char
  | config => some 'c'
  | port => some 'p'
  | _ => none

/-- The variable of the environment that stands in for the option, where there is one. -/
def envName? : Flag → Option String
  | port => some "PORT"
  | cols => some "COLS"
  | rows => some "ROWS"
  | _ => none

/-- What the option is for. -/
def purpose : Flag → String
  | config => "Path to TOML configuration file"
  | host => "Address to bind to (e.g., 127.0.0.1)"
  | port => "Port to listen on"
  | maxConnections => "Maximum number of concurrent client sessions"
  | cols => "Canvas width in columns"
  | rows => "Canvas height in rows"
  | logLevel => "Log level (trace, debug, info, warn, error)"

end Flag

/-- What an option word asks for. -/
inductive Asked
  /-- An option that takes a value. -/
  | flag (f : Flag)
  /-- The help text. -/
  | help
  /-- The version number. -/
  | version
deriving DecidableEq, Repr

/-- Why the words and variables give no choices. -/
inductive Stop
  /-- Help was asked for. -/
  | help
  /-- The version number was asked for. -/
  | version
  /-- A word is no option and no value of one. -/
  | unknownWord
  /-- An option has no value, or an empty one where that is none. -/
  | missingValue
  /-- A value is no number of the kind wanted. -/
  | badNumber
  /-- An option is given twice. -/
  | repeated
  /-- A value is given to an option that takes none. -/
  | unwantedValue
deriving DecidableEq, Repr

namespace Asked

/-- What a long name asks for. -/
def ofName? (s : List Char) : Option Asked :=
  if s = ['h', 'e', 'l', 'p'] then some help
  else if s = ['v', 'e', 'r', 's', 'i', 'o', 'n'] then some version
  else (Flag.all.find? fun f => f.name.toList == s).map flag

/-- What a letter asks for. -/
def ofLetter? (c : Char) : Option Asked :=
  if c = 'h' then some help
  else if c = 'V' then some version
  else (Flag.all.find? fun f => f.letter? == some c).map flag

end Asked

/-- What one word is. -/
inductive Word
  /-- It parts options from what is none. -/
  | parting
  /-- It asks for something, perhaps with a value. -/
  | option (asked : Option Asked) (value : Option String)
  /-- It is none of these. -/
  | plain
deriving DecidableEq, Repr

namespace Word

/-- A word behind two dashes: a long name, and a value behind an equals sign. -/
def long (s : List Char) : Word :=
  let name := s.takeWhile (· != '=')
  let value := match s.dropWhile (· != '=') with
    | [] => none
    | _ :: v => some (String.ofList v)
  .option (Asked.ofName? name) value

/-- A word behind one dash: a letter, and for an option that takes a value, this directly behind the
letter or behind an equals sign. Behind any other letter nothing is looked at. -/
def short (c : Char) (s : List Char) : Word :=
  match Asked.ofLetter? c with
  | some (.flag f) =>
    let value := match s with
      | [] => none
      | '=' :: v => some (String.ofList v)
      | v => some (String.ofList v)
    .option (some (.flag f)) value
  | asked => .option asked none

/-- What a word is. -/
def ofChars : List Char → Word
  | ['-', '-'] => .parting
  | '-' :: '-' :: s => .long s
  | '-' :: c :: s => .short c s
  | _ => .plain

end Word

/-! ## Values -/

/-- The port that a value gives: an integer with an optional sign, within the range of ports. -/
def portValue? (s : String) : Option Nat :=
  match signed? s.toList with
  | some n => if 0 ≤ n ∧ n < 0x10000 then some n.toNat else none
  | none => none

/-- The number that a value gives. -/
def countValue? (s : String) : Option Nat := unsigned? wordSize s.toList

/-- A number, or the fault that there is none. -/
def orBadNumber : Option Nat → Except Stop Nat
  | some n => .ok n
  | none => .error .badNumber

namespace Choices

/-- Whether an option has been given its value. -/
def has (c : Choices) : Flag → Bool
  | .config => c.config.isSome
  | .host => c.host.isSome
  | .port => c.port.isSome
  | .maxConnections => c.maxConnections.isSome
  | .cols => c.cols.isSome
  | .rows => c.rows.isSome
  | .logLevel => c.logLevel.isSome

/-- The choices after an option was given its value. -/
def set (c : Choices) (f : Flag) (value : String) : Except Stop Choices :=
  match f with
  | .config => if value = "" then .error .missingValue else .ok { c with config := some value }
  | .host => .ok { c with host := some value }
  | .port => (orBadNumber (portValue? value)).map fun n => { c with port := some n }
  | .maxConnections =>
    (orBadNumber (countValue? value)).map fun n => { c with maxConnections := some n }
  | .cols => (orBadNumber (countValue? value)).map fun n => { c with cols := some n }
  | .rows => (orBadNumber (countValue? value)).map fun n => { c with rows := some n }
  | .logLevel => .ok { c with logLevel := some value }

/-- The choices after an option was given its value among the words. Each may be given once. -/
def give (c : Choices) (f : Flag) (value : String) : Except Stop Choices :=
  if c.has f then .error .repeated else c.set f value

end Choices

/-! ## The words from the left -/

/-- How far the words have been read. -/
structure WordReading where
  /-- The choices so far. -/
  choices : Choices
  /-- The option read last, if its value has not been looked at, and that value, if it has come. -/
  pending : Option (Flag × Option String)
deriving Repr

namespace WordReading

/-- The choices when the value of the option read last has been looked at. -/
def settle (r : WordReading) : Except Stop Choices :=
  match r.pending with
  | none => .ok r.choices
  | some (_, none) => .error .missingValue
  | some (f, some v) => r.choices.give f v

/-- The reading after one more word, which does not part options from the rest. -/
def next (r : WordReading) (text : String) (w : Word) : Except Stop WordReading :=
  match w with
  | .option (some (.flag f)) (some v) => do
    return ⟨← (← r.settle).give f v, none⟩
  | .option (some (.flag f)) none => do
    return ⟨← r.settle, some (f, none)⟩
  | .option (some .help) v => askedAlone v .help
  | .option (some .version) v => askedAlone v .version
  | .option none _ => .error .unknownWord
  | _ =>
    match r.pending with
    | some (f, none) => .ok ⟨r.choices, some (f, some text)⟩
    | _ => .error .unknownWord
where
  /-- Help or the version number is asked for, where no value may stand. -/
  askedAlone (v : Option String) (stop : Stop) : Except Stop WordReading :=
    match v with
    | some _ => .error .unwantedValue
    | none => do
      let _ ← r.settle
      .error stop

/-- The choices that the remaining words lead to. Behind a word that parts options from the rest
there may be no other one. -/
def finish (r : WordReading) : List String → Except Stop Choices
  | [] => r.settle
  | text :: rest =>
    match Word.ofChars text.toList with
    | .parting => if rest.isEmpty then r.settle else .error .unknownWord
    | w => do (← r.next text w).finish rest

end WordReading

namespace Choices

/-- The variables of the environment that are set, each with its value. -/
abbrev Environment := List (String × String)

/-- The choices when the variable of one option has been looked at. -/
def addVariable (env : Environment) (c : Choices) (f : Flag) : Except Stop Choices :=
  if c.has f then .ok c
  else
    match f.envName?.bind fun name => List.lookup name env with
    | none => .ok c
    | some v => c.set f v

/-- The choices when the variables have been looked at. -/
def addVariables (c : Choices) (env : Environment) : Except Stop Choices :=
  Flag.all.foldlM (addVariable env) c

/-- The choices that words and variables give. -/
def read (words : List String) (env : Environment) : Except Stop Choices := do
  let c ← WordReading.finish ⟨{}, none⟩ words
  c.addVariables env

end Choices

/-! ## What is shown -/

/-- The name of the program. -/
def programName : String := "turtle-canvas"

/-- The name of the program and its version. -/
def versionText : String := programName ++ " 0.1.0"

/-- What the program is. -/
def aboutText : String := "A turtle-graphics canvas server over a line protocol"

/-- The line of the help text for one option. -/
def Flag.helpLine (f : Flag) : String :=
  let letter := match f.letter? with
    | some c => "  -" ++ String.singleton c ++ ", "
    | none => "      "
  let env := match f.envName? with
    | some v => " [env: " ++ v ++ "=]"
    | none => ""
  letter ++ "--" ++ f.name ++ " <" ++ f.name ++ ">  " ++ f.purpose ++ env

/-- The lines of the help text. -/
def helpLines : List String :=
  [aboutText, "", "Usage: " ++ programName ++ " [OPTIONS]", "", "Options:"] ++
    Flag.all.map Flag.helpLine ++
    ["  -h, --help  Print help", "  -V, --version  Print version"]

/-- What is shown on the standard output where the words stop the program: lines for what was asked
for, and nothing otherwise. -/
def Stop.shown : Stop → List String
  | help => helpLines
  | version => [versionText]
  | _ => []

/-- What is wrong with the words, for those who read the error output. -/
def Stop.complaint : Stop → String
  | help => ""
  | version => ""
  | unknownWord => "unexpected argument"
  | missingValue => "a value is required for an option but none was supplied"
  | badNumber => "invalid value for an option"
  | repeated => "an option cannot be used multiple times"
  | unwantedValue => "unexpected value for an option"

end Plotter
