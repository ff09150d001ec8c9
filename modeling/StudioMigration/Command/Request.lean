import StudioMigration.Session

/-!
# Command lines

A command takes options and at most one operand. Long options may be shortened as long as they stay
unique, short options without values may be joined, and a double dash ends the options.

* `Command.read` reads a command line.
* `LineFlaw.describe` is the wording of what can be wrong with it.
* `Command.require` reads it as part of a run, which a flawed line ends.
-/

namespace StudioMigration

/-- An option of a command: its names, and whether a value follows it. -/
structure CommandOption where
  names : List String
  takesValue : Bool
  deriving DecidableEq, Repr

structure Command where
  program : String
  usage : String
  details : List String
  options : List CommandOption
  operand : String
  needsOperand : Bool

/-- An option that was given, with its value. -/
structure Setting where
  option : CommandOption
  value : Option String
  deriving DecidableEq, Repr

structure Arguments where
  operand : Option String
  settings : List Setting
  deriving DecidableEq, Repr

def hasSetting (settings : List Setting) (name : String) : Bool :=
  settings.any fun setting => setting.option.names.contains name

def Arguments.has (arguments : Arguments) (name : String) : Bool := hasSetting arguments.settings name

/-- The option that asks for help. Nothing after it is read. -/
def helpOption : CommandOption := ⟨["-h", "--help"], false⟩

/-- The value that was last given for an option. -/
def Arguments.value? (arguments : Arguments) (name : String) : Option String :=
  ((arguments.settings.filter fun setting => setting.option.names.contains name).getLast?).bind
    (·.value)

/-- What can be wrong with a command line. -/
inductive LineFlaw where
  /-- A shortened option fits several options. -/
  | ambiguous (given : String) (candidates : List String)
  | ignoredValue (option : CommandOption) (value : String)
  | expectedValue (option : CommandOption)
  | missingOperand (name : String)
  | unrecognized (words : List String)
  deriving DecidableEq, Repr

def CommandOption.label (option : CommandOption) : String := Text.joinStrings "/" option.names

def LineFlaw.describe : LineFlaw → String
  | .ambiguous given candidates =>
    s!"ambiguous option: {given} could match " ++ Text.joinStrings ", " candidates
  | .ignoredValue option value =>
    s!"argument {option.label}: ignored explicit argument " ++ Text.quotedString value
  | .expectedValue option => s!"argument {option.label}: expected one argument"
  | .missingOperand name => s!"the following arguments are required: {name}"
  | .unrecognized words => "unrecognized arguments: " ++ Text.joinStrings " " words

/-! ## Words -/

/-- An option that a word stands for: the option, the name it was called by, and the text that follows the
name in the same word, after an equals sign or at once. -/
structure OptionUse where
  option : CommandOption
  name : String
  attached : Option (List Char)
  deriving DecidableEq, Repr

inductive LineWord where
  /-- An option, or something that looks like one. -/
  | option (text : String) (use : Option OptionUse)
  | divider
  | plain (text : String)
  deriving DecidableEq, Repr

def LineWord.text : LineWord → String
  | .option text _ => text
  | .divider => "--"
  | .plain text => text

namespace Command

variable (command : Command) (option : CommandOption)

def optionNames : List (String × CommandOption) :=
  command.options.flatMap fun option => option.names.map fun name => (name, option)

def option? (name : String) : Option CommandOption :=
  (command.optionNames.find? (·.1 == name)).map (·.2)

def splitValue? (text : List Char) : Option (List Char × List Char) :=
  if text.contains '=' then
    some (text.takeWhile (· != '='), (text.dropWhile (· != '=')).drop 1)
  else none

/-- The options that a word may be a short form of. -/
def candidates (text : List Char) : List OptionUse :=
  if "--".toList.isPrefixOf text then
    let (stem, attached) : List Char × Option (List Char) :=
      match splitValue? text with
      | some (stem, value) => (stem, some value)
      | none => (text, none)
    command.optionNames.filterMap fun (name, option) =>
      if stem.isPrefixOf name.toList then some ⟨option, name, attached⟩ else none
  else
    command.optionNames.filterMap fun (name, option) =>
      if name.toList == text.take 2 then some ⟨option, name, some (text.drop 2)⟩
      else if text.isPrefixOf name.toList then some ⟨option, name, none⟩
      else none

def isNegativeNumber (text : List Char) : Bool :=
  match text with
  | '-' :: rest =>
    let whole := rest.takeWhile Text.isDecimal
    match rest.drop whole.length with
    | [] => !whole.isEmpty
    | ['\n'] => !whole.isEmpty
    | '.' :: tail =>
      let fraction := tail.takeWhile Text.isDecimal
      !fraction.isEmpty && (tail.drop fraction.length == [] || tail.drop fraction.length == ['\n'])
    | _ => false
  | _ => false

/-- What a word is, before any double dash. -/
def classify (text : String) : Except LineFlaw LineWord :=
  if text.toList.head? != some '-' then .ok (.plain text)
  else
    match command.option? text with
    | some option => .ok (.option text (some ⟨option, text, none⟩))
    | none =>
      if text.length == 1 then .ok (.plain text)
      else
        let named :=
          (splitValue? text.toList).bind fun (stem, value) =>
            (command.option? (String.ofList stem)).map fun option =>
              (⟨option, String.ofList stem, some value⟩ : OptionUse)
        match named with
        | some use => .ok (.option text (some use))
        | none =>
          match command.candidates text.toList with
          | [use] => .ok (.option text (some use))
          | [] =>
            if isNegativeNumber text.toList || text.toList.contains ' ' then .ok (.plain text)
            else .ok (.option text none)
          | uses => .error (.ambiguous text (uses.map (·.name)))

def classifyAll (command : Command) : List String → Except LineFlaw (List LineWord)
  | [] => .ok []
  | "--" :: rest => .ok (.divider :: rest.map LineWord.plain)
  | text :: rest => do
    let word ← command.classify text
    let words ← command.classifyAll rest
    return word :: words

/-! ## Options -/

/-- What an option on the command line amounts to. -/
structure Effect where
  settings : List Setting := []
  /-- An option that needs the next word as its value. -/
  waiting : Option CommandOption := none

def bare : Effect :=
  if option.takesValue then { waiting := some option } else { settings := [⟨option, none⟩] }

/-- An option with a text attached to a long name. -/
def withValue (value : List Char) : Except LineFlaw Effect :=
  if option.takesValue then .ok { settings := [⟨option, some (String.ofList value)⟩] }
  else .error (.ignoredValue option (String.ofList value))

/-- An option with a text attached to a short name: its value, or the letters of further options. -/
def withLetters (command : Command) (option : CommandOption) : List Char → Except LineFlaw Effect
  | [] => withValue option []
  | c :: rest =>
    if option.takesValue then withValue option (c :: rest)
    else
      match command.option? (String.ofList ['-', c]) with
      | none => .error (.ignoredValue option (String.ofList (c :: rest)))
      | some next => do
        let effect ← if rest.isEmpty then pure (bare next) else command.withLetters next rest
        return { effect with settings := ⟨option, none⟩ :: effect.settings }

def effectOf (use : OptionUse) : Except LineFlaw Effect :=
  match use.attached with
  | none => .ok (bare use.option)
  | some text =>
    if "--".toList.isPrefixOf use.name.toList then withValue use.option text
    else command.withLetters use.option text

/-! ## Whole lines -/

structure Progress where
  operand : Option String := none
  atOperand : Bool := false
  /-- An option that needs the next word as its value. -/
  waiting : Option CommandOption := none
  settings : List Setting := []
  rest : List String := []
  deriving Repr

def Progress.asksHelp (progress : Progress) : Bool := hasSetting progress.settings "-h"

/-- Reads one word. The first plain word is the operand, and a double dash before it or right after it
has done its duty. -/
def readWord (progress : Progress) (word : LineWord) : Except LineFlaw Progress :=
  if progress.asksHelp then .ok progress
  else match progress.waiting with
  | some option =>
    match word with
    | .plain value =>
      .ok { progress with
        waiting := none, settings := progress.settings ++ [⟨option, some value⟩] }
    | _ => .error (.expectedValue option)
  | none =>
    match word with
    | .option text none => .ok { progress with atOperand := false, rest := progress.rest ++ [text] }
    | .option _ (some use) => do
      let effect ← command.effectOf use
      return { progress with
        atOperand := false, waiting := effect.waiting,
        settings := progress.settings ++ effect.settings }
    | .divider =>
      if progress.operand.isNone || progress.atOperand then
        .ok { progress with atOperand := false }
      else .ok { progress with rest := progress.rest ++ ["--"] }
    | .plain text =>
      if progress.operand.isNone then
        .ok { progress with operand := some text, atOperand := true }
      else .ok { progress with atOperand := false, rest := progress.rest ++ [text] }

/-- Checks that nothing is missing and nothing is left over, unless help was asked for. -/
def finish (progress : Progress) : Except LineFlaw Arguments :=
  if progress.asksHelp then .ok ⟨progress.operand, progress.settings⟩
  else match progress.waiting with
  | some option => .error (.expectedValue option)
  | none =>
    if command.needsOperand && progress.operand.isNone then
      .error (.missingOperand command.operand)
    else if !progress.rest.isEmpty then .error (.unrecognized progress.rest)
    else .ok ⟨progress.operand, progress.settings⟩

def read (line : List String) : Except LineFlaw Arguments := do
  let words ← command.classifyAll line
  let progress ← words.foldlM command.readWord {}
  command.finish progress

def help : String := Text.joinStrings "\n" (command.usage :: command.details) ++ "\n"

def complaint (flaw : LineFlaw) : String :=
  s!"{command.program}: error: {flaw.describe}\n"

end Command

/-! ## Requests -/

def verboseOption : CommandOption := ⟨["-v", "--verbose"], false⟩

/-- Reads a command line; a flawed one, or one that asks for help, ends the run. -/
def Command.require (command : Command) (line : List String) : Script Arguments :=
  match command.read line with
  | .error flaw => do
    Script.write .err (command.usage ++ "\n")
    Script.write .err (command.complaint flaw)
    throw (.exit 2)
  | .ok arguments =>
    if arguments.has "-h" then do
      Script.write .out command.help
      throw (.exit 0)
    else pure arguments

/-- The command line of tools that take a project and nothing but the option for details; `purpose` says
what the tool does. -/
def projectCommand (caller purpose : String) : Command where
  program := caller
  usage := s!"usage: {caller} [-h] [-v] [project_path]"
  details :=
    ["", purpose, "", "positional arguments:",
     "  project_path   Automation Studio 4.x path containing *.apj file", "", "options:",
     "  -h, --help     show this help message and exit", "  -v, --verbose"]
  options := [helpOption, verboseOption]
  operand := "project_path"
  needsOperand := false

/-- The project and the option for details on such a command line. -/
def projectRequest (caller purpose : String) (line : List String) : Script (String × Bool) := do
  let arguments ← (projectCommand caller purpose).require line
  match arguments.operand with
  | some project => return (project, arguments.has "-v")
  | none => return ((← get).workspace.current.render, arguments.has "-v")

end StudioMigration
