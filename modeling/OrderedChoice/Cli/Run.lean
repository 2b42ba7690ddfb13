import OrderedChoice.Cli.Args
import OrderedChoice.Diagnostic
import OrderedChoice.Grammar.Document
import OrderedChoice.Grammar.Report
import OrderedChoice.Parse
import OrderedChoice.Pattern
import OrderedChoice.Tree.Render

/-!
# Carrying out a command

A command reads files and prints to the standard output. What it prints, its exit status and the
cause of a failure depend only on its arguments and on the contents of the files.

A command is carried out with any pattern engine. The engine of programs is brought along here, so
that it is the one that runs if no other is given.
-/

namespace OrderedChoice.Cli

variable [PatternEngine]

/-- **Readable files**: the text of the file at a path, if it can be read. -/
abbrev Files := String → Option String

/-- **Causes of a failure.** -/
inductive Failure where
  /-- The command line is not understood, or asks for help. -/
  | usage (e : UsageError)
  /-- A file, a grammar or a symbol is not as it should be. -/
  | error (e : Error)
  /-- There is no symbol to parse as. -/
  | noStart
  /-- The source text did not match. -/
  | mismatch (diagnostic : Diagnostic)
  /-- The check of a grammar found something. -/
  | findings
  /-- The parse gives no tree. -/
  | noTree (e : ParseError)

/-- The code of a failure, if its cause has one. -/
def Failure.code? : Failure → Option String
  | .error e => some e.code
  | .mismatch _ => some Diagnostic.code
  | _ => none

/-- The exit status of a failure. -/
def Failure.status : Failure → Nat
  | .usage e => e.status
  | _ => 1

/-- What is said about a failure. -/
def Failure.message : Failure → String
  | .usage _ => "usage: parse --grammar <GRAMMAR> [--symbol <SYMBOL>] [--format <FORMAT>] <FILE>\n" ++
      "       check --grammar <GRAMMAR>"
  | .error e => e.message
  | .noStart => "grammar has no start symbol"
  | .mismatch diagnostic => diagnostic.message
  | .findings => "grammar cannot be parsed safely"
  | .noTree e => e.message

/-- **Outcome of a command.** -/
structure Outcome where
  /-- What is printed. -/
  output : String
  /-- Why the command failed, if it did. -/
  failure : Option Failure

/-- The exit status. -/
def Outcome.status (outcome : Outcome) : Nat := (outcome.failure.map Failure.status).getD 0

/-- The code of the failure, if there is one. -/
def Outcome.code? (outcome : Outcome) : Option String := outcome.failure.bind Failure.code?

/-- The outcome of a command that fails before it prints. -/
def Outcome.failed (failure : Failure) : Outcome := ⟨"", some failure⟩

/-- The text of a file. -/
def readFile (files : Files) (path : String) : Except Failure String :=
  match files path with
  | some text => .ok text
  | none => .error (.error (.unreadable path))

/-- The grammar in a file. -/
def loadGrammar (files : Files) (path : String) : Except Failure Grammar := do
  (Grammar.ofDocument (← readFile files path)).mapError .error

/-- The symbol to parse as: the one that is asked for, or else the start symbol of the grammar. -/
def chooseSymbol (grammar : Grammar) (symbol : Option String) : Except Failure String :=
  match symbol <|> grammar.start with
  | none => .error .noStart
  | some symbol =>
    if grammar.isNonterminal symbol then .ok symbol else .error (.error (.noSuchNonterminal symbol))

/-- A tree in a written form. -/
def Format.render (source : String) (tree : Tree) : Format → String
  | .tree => tree.toText source false
  | .json => tree.toJson source

/-- **Parses a file.** The grammar is loaded first, then the symbol is chosen, then the file is
read. The tree is printed whether the text matched or not. -/
def runParse (files : Files) (grammar : String) (symbol : Option String) (format : Format)
    (file : String) : Except Failure Outcome := do
  let grammar ← loadGrammar files grammar
  let symbol ← chooseSymbol grammar symbol
  let source ← readFile files file
  let tree ← (grammar.parse source symbol).mapError .noTree
  return ⟨format.render source tree, (Diagnostic.ofTree? source tree).map .mismatch⟩

/-- **Checks a grammar.** -/
def runCheck (files : Files) (grammar : String) : Except Failure Outcome := do
  let grammar ← loadGrammar files grammar
  return ⟨grammar.report false, if grammar.passesCheck then none else some .findings⟩

/-- **Carries out a command.** -/
def Command.run (files : Files) (command : Command) : Outcome :=
  let result :=
    match command with
    | .parse grammar symbol format file => runParse files grammar symbol format file
    | .check grammar => runCheck files grammar
  match result with
  | .ok outcome => outcome
  | .error failure => .failed failure

/-- **Carries out a command line.** -/
def run (files : Files) (arguments : List String) : Outcome :=
  match Command.ofArguments arguments with
  | .ok command => command.run files
  | .error e => ⟨e.output, some (.usage e)⟩

end OrderedChoice.Cli
