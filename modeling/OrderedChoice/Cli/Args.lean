/-!
# Command lines

The command line has two commands. One parses a file and prints its tree, the other one checks a
grammar. Options and the file may come in any order, and a value may be attached to its option.

A value that stands apart from its option is looked at only when the next argument has been
recognised, so an unknown argument is reported before a bad value in front of it. An option whose
value is missing and an option that is given twice are reported at the same moment.
-/

namespace OrderedChoice.Cli

/-- **Written forms** in which a tree can be printed. -/
inductive Format where
  | tree
  | json
  deriving DecidableEq

/-- **Commands.** -/
inductive Command where
  /-- Parses a file and prints its tree. -/
  | parse (grammar : String) (symbol : Option String) (format : Format) (file : String)
  /-- Checks a grammar. -/
  | check (grammar : String)
  deriving DecidableEq

/-- **Why a command line is not carried out.** -/
inductive UsageError where
  | displayHelp
  | displayHelpOnMissingArgument
  | displayVersion
  | unknownArgument
  | invalidValue
  | invalidSubcommand
  | missingRequiredArgument
  | argumentConflict
  | tooManyValues
  deriving DecidableEq

/-- Whether a command line asks for something that is printed instead of a failure. -/
def UsageError.isRequest : UsageError → Bool
  | .displayHelp | .displayVersion => true
  | _ => false

/-- The exit status of a command line that is not carried out. -/
def UsageError.status (e : UsageError) : Nat := if e.isRequest then 0 else 2

/-- What is printed instead of carrying out a command: the version, if it is asked for. -/
def UsageError.output : UsageError → String
  | .displayVersion => "sentential 0.1.0\n"
  | _ => ""

/-! ### The shape of an argument -/

/-- **Arguments by their shape.** -/
inductive Shape where
  /-- Two hyphens: every argument behind them is a value. -/
  | escape
  /-- A long option and the value behind an equals sign, if there is one. -/
  | long (name : String) (value : Option String)
  /-- The letters of short options, or of one and its value. -/
  | short (first : Char) (rest : List Char)
  /-- A value. -/
  | value (text : String)

/-- The shape of an argument. A single hyphen is a value. -/
def Shape.of (argument : String) : Shape :=
  match argument.toList with
  | ['-', '-'] => .escape
  | '-' :: '-' :: text =>
    let name := String.ofList (text.takeWhile (· ≠ '='))
    match text.dropWhile (· ≠ '=') with
    | _ :: attached => .long name (some (String.ofList attached))
    | [] => .long name none
  | '-' :: c :: rest => .short c rest
  | _ => .value argument

/-! ### Arguments of a command -/

/-- **Arguments that a command takes.** -/
inductive Slot where
  | grammar
  | symbol
  | format
  | file
  deriving DecidableEq

/-- **Command under its name**, with the options that it takes. -/
structure Spec where
  /-- The options by their letters and names. -/
  options : List (Char × String × Slot)
  /-- Whether the command takes a file. -/
  takesFile : Bool

/-- What the command that parses takes. -/
def parseSpec : Spec where
  options := [('g', "grammar", .grammar), ('s', "symbol", .symbol), ('f', "format", .format)]
  takesFile := true

/-- What the command that checks takes. -/
def checkSpec : Spec where
  options := [('g', "grammar", .grammar)]
  takesFile := false

/-- The option of a letter. -/
def Spec.short? (spec : Spec) (letter : Char) : Option Slot :=
  (spec.options.find? (·.1 = letter)).map (·.2.2)

/-- The option of a name. -/
def Spec.long? (spec : Spec) (name : String) : Option Slot :=
  (spec.options.find? (·.2.1 = name)).map (·.2.2)

/-- **What has been read of a command line.** -/
structure State where
  /-- The values that have been looked at. -/
  values : List (Slot × String)
  /-- The argument whose value has not been looked at, with the value if it has come. -/
  pending : Option (Slot × Option String)
  /-- Whether the file has come. -/
  hasFile : Bool
  /-- Whether every further argument is a value. -/
  onlyValues : Bool

/-- Nothing has been read. -/
def State.initial : State := ⟨[], none, false, false⟩

/-- The format of a name. -/
def format? : String → Option Format
  | "tree" => some .tree
  | "json" => some .json
  | _ => none

/-- Whether an argument takes a value: paths are not empty, and a format has a name. -/
def Slot.takes (value : String) : Slot → Bool
  | .grammar | .file => value ≠ ""
  | .symbol => true
  | .format => (format? value).isSome

/-- Looks at a value of an argument. An argument has one value only. -/
def State.store (state : State) (slot : Slot) (value : String) : Except UsageError State :=
  if state.values.any (·.1 = slot) then .error .argumentConflict
  else if slot.takes value then .ok { state with values := (slot, value) :: state.values }
  else .error .invalidValue

/-- **Looks at the value that is pending**, if there is one. -/
def State.settle (state : State) : Except UsageError State :=
  match state.pending with
  | none => .ok state
  | some (_, none) => .error .invalidValue
  | some (slot, some value) => { state with pending := none }.store slot value

/-- Reads an option whose value is attached to it, or is to come. -/
def State.option (state : State) (slot : Slot) (attached : Option String) :
    Except UsageError State := do
  let state ← state.settle
  match attached with
  | some value => state.store slot value
  | none => return { state with pending := some (slot, none) }

/-- A request for help comes after the value that is pending. -/
def State.help (state : State) : Except UsageError State := do
  let _ ← state.settle
  throw .displayHelp

/-- Reads the letters of a short option. What follows the letter is its value, with or without an
equals sign in between. -/
def State.short (spec : Spec) (state : State) (letter : Char) (rest : List Char) :
    Except UsageError State :=
  match spec.short? letter with
  | some slot =>
    match rest with
    | [] => state.option slot none
    | '=' :: value => state.option slot (some (String.ofList value))
    | value => state.option slot (some (String.ofList value))
  | none => if letter = 'h' then state.help else throw .unknownArgument

/-- Reads a long option. -/
def State.long (spec : Spec) (state : State) (name : String) (value : Option String) :
    Except UsageError State :=
  match spec.long? name with
  | some slot => state.option slot value
  | none =>
    if name = "help" then
      if value.isSome then throw .tooManyValues else state.help
    else
      throw .unknownArgument

/-- Reads a value that belongs to no option: the file. -/
def State.positional (spec : Spec) (state : State) (value : String) : Except UsageError State :=
  if spec.takesFile && !state.hasFile then do
    let state ← state.settle
    return { state with pending := some (.file, some value), hasFile := true }
  else
    throw .unknownArgument

/-- **Reads one argument** of a command. -/
def State.read (spec : Spec) (state : State) (argument : String) : Except UsageError State :=
  if state.onlyValues then
    state.positional spec argument
  else
    match Shape.of argument with
    | .escape => .ok { state with onlyValues := true }
    | .long name value => state.long spec name value
    | .short letter rest => state.short spec letter rest
    | .value value =>
      match state.pending with
      | some (slot, none) => .ok { state with pending := some (slot, some value) }
      | _ => state.positional spec value

/-- The value of an argument that is required. -/
def State.required (state : State) (slot : Slot) : Except UsageError String :=
  match state.values.lookup slot with
  | some value => .ok value
  | none => .error .missingRequiredArgument

/-- The values of the arguments of a command. -/
def readArguments (spec : Spec) (arguments : List String) : Except UsageError State := do
  (← arguments.foldlM (State.read spec) .initial).settle

/-! ### Commands -/

/-- The command that parses, from its arguments. -/
def parseCommand (arguments : List String) : Except UsageError Command := do
  let state ← readArguments parseSpec arguments
  let grammar ← state.required .grammar
  let file ← state.required .file
  let format := ((state.values.lookup .format).bind format?).getD .tree
  return .parse grammar (state.values.lookup .symbol) format file

/-- The command that checks, from its arguments. -/
def checkCommand (arguments : List String) : Except UsageError Command := do
  return .check (← (← readArguments checkSpec arguments).required .grammar)

/-- Help on a command: every argument has to be the name of a command below the one before it. -/
def helpCommand : List String → UsageError
  | [] => .displayHelp
  | [name] => if ["parse", "check", "help"].contains name then .displayHelp else .invalidSubcommand
  | _ => .invalidSubcommand

/-- The command whose name comes first, after two hyphens. No name is recognised there. -/
def escapedCommand : List String → UsageError
  | [] => .displayHelpOnMissingArgument
  | name :: _ =>
    if ["parse", "check", "help"].contains name then .unknownArgument else .invalidSubcommand

/-- **Command of a command line**, which does not include the name of the program. -/
def Command.ofArguments : List String → Except UsageError Command
  | [] => .error .displayHelpOnMissingArgument
  | "parse" :: arguments => parseCommand arguments
  | "check" :: arguments => checkCommand arguments
  | "help" :: arguments => .error (helpCommand arguments)
  | argument :: arguments =>
    match Shape.of argument with
    | .escape => .error (escapedCommand arguments)
    | .long name value =>
      if name = "help" ∨ name = "version" then
        if value.isSome then .error .tooManyValues
        else if name = "help" then .error .displayHelp
        else .error .displayVersion
      else .error .unknownArgument
    | .short 'h' _ => .error .displayHelp
    | .short 'V' _ => .error .displayVersion
    | .short _ _ => .error .unknownArgument
    | .value _ => .error .invalidSubcommand

end OrderedChoice.Cli
