import ShadowLint.Lint.Rule
import ShadowLint.Report.Log

/-!
# Command lines

A command line names a command, `check` or `rule`, with its own flags, options and
positional words.  The flags for the verbosity may stand before the command or among its
words.

A command line is read word by word.  The values of an option or of a positional argument
are collected first, and they are looked at when the next flag, option or other argument
comes, or at the end; so what is reported about a command line with several faults is not
always the leftmost one.  The words of a command are settled before the flags in front of
it are compared with each other.
-/

namespace ShadowLint.Command

open Lint (Rule)
open Report (Verbosity)

/-! ## What a command line asks for -/

/-- The form in which messages are printed. -/
inductive Format where
  | text
  | json
  deriving DecidableEq, Repr

/-- The format of a name. -/
def Format.ofName? (name : String) : Option Format :=
  if name = "text" then some .text
  else if name = "json" then some .json
  else none

/-- The command that lints files. -/
structure CheckCommand where
  files : List String
  /-- The configuration file that is used instead of the nearest one. -/
  config : Option String
  /-- No configuration file is used. -/
  isolated : Bool
  format : Format
  /-- The exit status does not tell whether there are messages. -/
  exitZero : Bool
  /-- The settings are shown, and nothing is linted. -/
  showSettings : Bool
  deriving DecidableEq, Repr

/-- What is to be done. -/
inductive Task where
  | check (command : CheckCommand)
  /-- Explain a rule. -/
  | rule (rule : Rule)
  deriving DecidableEq, Repr

/-- A command line that was understood. -/
structure Invocation where
  task : Task
  verbosity : Verbosity
  deriving DecidableEq, Repr

/-- Why a command line leads to no run. -/
inductive Usage where
  | unknownArgument
  | invalidSubcommand
  | missingSubcommand
  | missingRequiredArgument
  | argumentConflict
  | invalidValue
  | tooManyValues
  | valueValidation
  | displayHelp
  | displayVersion
  /-- There is nothing on the command line. -/
  | displayHelpOnMissing
  deriving DecidableEq, Repr

/-- Whether the user asked for no more than what is displayed. -/
def Usage.isRequest : Usage → Bool
  | .displayHelp => true
  | .displayVersion => true
  | _ => false

/-- The exit status of a command line that leads to no run. -/
def Usage.code (usage : Usage) : UInt32 := if usage.isRequest then 0 else 2

/-! ## Flags and options -/

/-- A word that takes no value. -/
inductive Flag where
  | verbose
  | quiet
  | silent
  | help
  | version
  | isolated
  | exitZero
  | showSettings
  deriving DecidableEq, Repr

namespace Flag

/-- The long name of a flag. -/
def long : Flag → String
  | verbose => "verbose"
  | quiet => "quiet"
  | silent => "silent"
  | help => "help"
  | version => "version"
  | isolated => "isolated"
  | exitZero => "exit-zero"
  | showSettings => "show-settings"

/-- The letter of a flag, if it has one. -/
def letter? : Flag → Option Char
  | verbose => some 'v'
  | quiet => some 'q'
  | silent => some 's'
  | help => some 'h'
  | version => some 'V'
  | exitZero => some 'e'
  | isolated => none
  | showSettings => none

/-- The flags that choose the verbosity. -/
def verbosities : List Flag := [verbose, quiet, silent]

end Flag

/-- The commands. -/
inductive Subcommand where
  | check
  | rule
  deriving DecidableEq, Repr

/-- What takes values: an option, or the positional words of a command. -/
inductive Slot where
  | config
  | format
  | files
  | rule
  deriving DecidableEq, Repr

namespace Subcommand

/-- The command of a name. -/
def ofName? (name : String) : Option Subcommand :=
  if name = "check" then some check
  else if name = "rule" then some rule
  else none

/-- The flags of a command. -/
def flags : Subcommand → List Flag
  | check => Flag.verbosities ++ [.help, .isolated, .exitZero, .showSettings]
  | rule => Flag.verbosities ++ [.help]

/-- The option of a long name. -/
def option? (command : Subcommand) (name : String) : Option Slot :=
  if command = check ∧ name = "config" then some .config
  else if command = check ∧ name = "output-format" then some .format
  else none

end Subcommand

/-- The flags that may stand before the command. -/
def leadingFlags : List Flag := Flag.verbosities ++ [.help, .version]

/-- The flag of a long name. -/
def flagOfName? (flags : List Flag) (name : String) : Option Flag :=
  flags.find? fun flag => flag.long = name

/-- The flag of a letter. -/
def flagOfLetter? (flags : List Flag) (letter : Char) : Option Flag :=
  flags.find? fun flag => flag.letter? = some letter

/-! ## Words -/

/-- A word by its shape. -/
inductive Word where
  /-- Two dashes, behind which all words are positional. -/
  | dashes
  /-- Two dashes, a name, and perhaps a value behind an equals sign. -/
  | long (name : String) (value : Option String)
  /-- A dash and letters. -/
  | letters (letters : List Char)
  | plain (text : String)
  deriving DecidableEq, Repr

/-- The shape of a word. -/
def Word.ofString (text : String) : Word :=
  match text.toList with
  | ['-', '-'] => .dashes
  | '-' :: '-' :: rest =>
      match rest.span (· ≠ '=') with
      | (name, []) => .long (String.ofList name) none
      | (name, _ :: value) => .long (String.ofList name) (some (String.ofList value))
  | '-' :: c :: rest => .letters (c :: rest)
  | _ => .plain text

/-! ## The words of a command -/

/-- What the words of a command gave so far. -/
structure State where
  flags : List Flag
  config : Option String
  format : Option Format
  files : List String
  rule : Option Rule
  /-- Values that were collected, but not looked at. -/
  pending : Option (Slot × List String)
  /-- Whether the positional word of a command that has only one was given. -/
  filled : Bool
  /-- Whether two dashes were given. -/
  trailing : Bool
  deriving Repr

namespace State

/-- The state before the first word. -/
def initial : State :=
  { flags := [], config := none, format := none, files := [], rule := none, pending := none,
    filled := false, trailing := false }

/-- Looks at the values of an option or argument. -/
def give (state : State) : Slot → List String → Except Usage State
  | .config, [path] =>
      if state.config.isSome then .error .argumentConflict
      else if path.isEmpty then .error .invalidValue
      else .ok { state with config := some path }
  | .format, [name] =>
      if state.format.isSome then .error .argumentConflict
      else
        match Format.ofName? name with
        | some format => .ok { state with format := some format }
        | none => .error .invalidValue
  | .files, paths =>
      if paths.any String.isEmpty then .error .invalidValue
      else .ok { state with files := state.files ++ paths }
  | .rule, [name] =>
      match Rule.ofName? name with
      | some rule => .ok { state with rule := some rule }
      | none => .error .valueValidation
  | _, _ => .error .invalidValue

/-- Looks at the values that were collected. -/
def settle (state : State) : Except Usage State :=
  match state.pending with
  | none => .ok state
  | some (slot, values) => ({ state with pending := none } : State).give slot values

/-- Takes a flag. -/
def takeFlag (state : State) (flag : Flag) : Except Usage State := do
  let state ← state.settle
  if flag = .help then throw .displayHelp
  else if flag = .version then throw .displayVersion
  else if flag ∈ state.flags then throw .argumentConflict
  else return { state with flags := state.flags ++ [flag] }

/-- Takes letters, each of which is a flag. -/
def takeLetters (known : List Flag) (state : State) : List Char → Except Usage State
  | [] => .ok state
  | c :: rest =>
      match flagOfLetter? known c with
      | none => .error .unknownArgument
      | some flag => do
          let state ← state.takeFlag flag
          takeLetters known state rest

/-- Takes a positional word. -/
def takePositional (command : Subcommand) (state : State) (word : String) : Except Usage State :=
  match command with
  | .check =>
      match state.pending with
      | some (.files, paths) => .ok { state with pending := some (.files, paths ++ [word]) }
      | _ => do
          let state ← state.settle
          return { state with pending := some (.files, [word]) }
  | .rule =>
      if state.filled then .error .unknownArgument
      else do
        let state ← state.settle
        return { state with pending := some (.rule, [word]), filled := true }

/-- Takes a word that is no flag and no option. -/
def takePlain (command : Subcommand) (state : State) (word : String) : Except Usage State :=
  match state.pending with
  | some (slot, []) => .ok { state with pending := some (slot, [word]) }
  | _ => state.takePositional command word

/-- Takes a word of a command. -/
def take (command : Subcommand) (state : State) (word : String) : Except Usage State :=
  if state.trailing then state.takePositional command word
  else
    match Word.ofString word with
    | .dashes => .ok { state with trailing := true }
    | .long name value =>
        match command.option? name, flagOfName? command.flags name, value with
        | some slot, _, some value => do
            let state ← state.settle
            state.give slot [value]
        | some slot, _, none => do
            let state ← state.settle
            return { state with pending := some (slot, []) }
        | none, some _, some _ => .error .tooManyValues
        | none, some flag, none => state.takeFlag flag
        | none, none, _ => .error .unknownArgument
    | .letters letters => state.takeLetters command.flags letters
    | .plain text => state.takePlain command text

end State

/-- Whether more than one of the flags that choose the verbosity was given. -/
def verbositiesConflict (flags : List Flag) : Bool :=
  decide (1 < (flags.filter fun flag => flag ∈ Flag.verbosities).length)

/-- The task of a command from what its words gave. -/
def State.task (state : State) : Subcommand → Except Usage Task
  | .check =>
      if state.config.isSome ∧ Flag.isolated ∈ state.flags then .error .argumentConflict
      else .ok (.check {
        files := state.files
        config := state.config
        isolated := decide (Flag.isolated ∈ state.flags)
        format := state.format.getD .text
        exitZero := decide (Flag.exitZero ∈ state.flags)
        showSettings := decide (Flag.showSettings ∈ state.flags) })
  | .rule =>
      match state.rule with
      | some rule => .ok (.rule rule)
      | none => .error .missingRequiredArgument

/-- Reads the words of a command: its task and its flags. -/
def Subcommand.read (command : Subcommand) (words : List String) :
    Except Usage (Task × List Flag) := do
  let state ← words.foldlM (State.take command) State.initial
  let state ← state.settle
  if verbositiesConflict state.flags then throw .argumentConflict
  let task ← state.task command
  return (task, state.flags)

/-! ## Whole command lines -/

/-- The verbosity that flags choose.  Where one stands in front of the command and another
among its words, the quieter one counts. -/
def chosenVerbosity (flags : List Flag) : Verbosity :=
  if .silent ∈ flags then .silent
  else if .quiet ∈ flags then .quiet
  else if .verbose ∈ flags then .verbose
  else .normal

/-- What the words behind `help` lead to. -/
def helpAbout : List String → Usage
  | [] => .displayHelp
  | [name] =>
      if name = "help" ∨ (Subcommand.ofName? name).isSome then .displayHelp else .invalidSubcommand
  | _ => .invalidSubcommand

/-- Reads a command line behind some flags. -/
def readBehind (leading : List Flag) (trailing : Bool) : List String → Except Usage Invocation
  | [] => .error (if leading.isEmpty then .displayHelpOnMissing else .missingSubcommand)
  | word :: rest =>
      if trailing then
        .error
          (if word = "help" ∨ (Subcommand.ofName? word).isSome then .unknownArgument
          else .invalidSubcommand)
      else
        match Word.ofString word with
        | .dashes => readBehind leading true rest
        | .long name value =>
            match flagOfName? leadingFlags name, value with
            | none, _ => .error .unknownArgument
            | some _, some _ => .error .tooManyValues
            | some flag, none => do
                let state ← ({ State.initial with flags := leading } : State).takeFlag flag
                readBehind state.flags false rest
        | .letters letters => do
            let state := { State.initial with flags := leading }
            let state ← State.takeLetters leadingFlags state letters
            readBehind state.flags false rest
        | .plain text =>
            if text = "help" then .error (helpAbout rest)
            else
              match Subcommand.ofName? text with
              | none => .error .invalidSubcommand
              | some command => do
                  let (task, own) ← command.read rest
                  if verbositiesConflict leading then throw .argumentConflict
                  return { task, verbosity := chosenVerbosity (leading ++ own) }

/-- Reads a command line. -/
def Invocation.ofWords (words : List String) : Except Usage Invocation :=
  readBehind [] false words

end ShadowLint.Command
