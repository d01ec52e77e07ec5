import Plotter.Options
import Plotter.Settings.File
import Plotter.Text.Utf8

/-!
# Launching

From the words of the command line, the variables of the environment and the files at hand to the
settings of a service (`launch`). There are four stages, and the first that fails decides: what was
chosen, the file that was chosen is read, what it says is taken over, and the two layers are put
together.

The stages do not depend on how words, variables and files are read (`Readers`): the first one could
know other spellings of the options, and the third another notation than TOML.
-/

namespace Plotter

open Text

/-- Why a file cannot be read. -/
inductive FileFault
  /-- The path leads nowhere. -/
  | missing
  /-- The path leads to a directory. -/
  | directory
  /-- The path goes on behind a file. -/
  | notDirectory
  /-- A part of the path, or the path as a whole, has too many bytes. -/
  | nameTooLong
  /-- The file is no UTF-8 text. -/
  | notText
  /-- The system says something else. -/
  | other (text : String)
deriving DecidableEq, Repr

/-- The wording of a fault. -/
def FileFault.message : FileFault → String
  | missing => "No such file or directory (os error 2)"
  | directory => "Is a directory (os error 21)"
  | notDirectory => "Not a directory (os error 20)"
  | nameTooLong => "File name too long (os error 36)"
  | notText => "stream did not contain valid UTF-8"
  | other text => text

/-- Why there are no settings. -/
inductive LaunchError
  /-- The words and variables give no choices, or ask for something else. -/
  | stopped (stop : Stop)
  /-- The file cannot be read. -/
  | unreadable (path : String) (fault : FileFault)
  /-- The file is not usable. -/
  | unusable (path : String)
  /-- The settings are wrong. -/
  | wrong (problem : Settings.Problem)
deriving DecidableEq, Repr

namespace LaunchError

/-- The wording of an error, for those that have one of their own. -/
def message : LaunchError → String
  | stopped stop => stop.complaint
  | unreadable path fault => "Failed to read config file '" ++ path ++ "': " ++ fault.message
  | unusable path => "Failed to parse config file '" ++ path ++ "'"
  | wrong problem => problem.message

/-- The code with which the program ends: asking for help or the version number is no failure. -/
def exitCode : LaunchError → Nat
  | stopped .help => 0
  | stopped .version => 0
  | stopped _ => 2
  | _ => 1

end LaunchError

/-- How what is chosen for a run is read. -/
structure Readers where
  /-- The choices that words and variables give. -/
  choices : List String → Choices.Environment → Except Stop Choices
  /-- How the file is read. -/
  file : Settings.File.Reader

namespace Readers

/-- The readers at hand. -/
def usual : Readers := ⟨Choices.read, .toml⟩

/-- The profile of the file that was chosen, given how a path is read; the usual one if no file was
chosen. -/
def profileOf (r : Readers) (readFile : String → Except FileFault (List UInt8)) (c : Choices) :
    Except LaunchError Profile :=
  match c.config with
  | none => .ok .usual
  | some path =>
    match readFile path with
    | .error fault => .error (.unreadable path fault)
    | .ok bytes =>
      match Utf8.strict? bytes with
      | none => .error (.unreadable path .notText)
      | some text =>
        match r.file.ofText? text with
        | none => .error (.unusable path)
        | some p => .ok p

/-- The settings that choices and the file among them give. -/
def settingsOf (r : Readers) (readFile : String → Except FileFault (List UInt8)) (c : Choices) :
    Except LaunchError Settings := do
  let p ← r.profileOf readFile c
  (Settings.merge c p).mapError .wrong

/-- The settings that words, variables and files give. -/
def launch (r : Readers) (readFile : String → Except FileFault (List UInt8)) (words : List String)
    (env : Choices.Environment) : Except LaunchError Settings := do
  let c ← (r.choices words env).mapError .stopped
  r.settingsOf readFile c

end Readers

/-- The settings that choices and the file among them give, read as usual. -/
def settingsOf (readFile : String → Except FileFault (List UInt8)) (c : Choices) :
    Except LaunchError Settings :=
  Readers.usual.settingsOf readFile c

/-- The settings that words, variables and files give, read as usual. -/
def launch (readFile : String → Except FileFault (List UInt8)) (words : List String)
    (env : Choices.Environment) : Except LaunchError Settings :=
  Readers.usual.launch readFile words env

end Plotter
