import OrderedChoice.Cli.Run
import OrderedChoice.Proofs.Diagnosis
import OrderedChoice.Proofs.Entries
import OrderedChoice.Proofs.Lines
import OrderedChoice.Proofs.PrettyForm

/-!
# The verdict of the command line

A command to parse a file goes through three steps before it parses: it loads a grammar, chooses a
symbol and reads the source text. If one of them fails, nothing is printed and the failure is that
of the first one that does. Otherwise the tree is printed, all of it and with all its faults, and
the exit status says whether there is a fault in it, at whatever depth.

What is printed is said without the functions that write it: the text form has the row of each node
in pre-order, the JSON form is the pretty form of the object that the tree stands for.

The exit status comes from the diagnostic, which follows the way to the failure and knows nothing
of the other nodes. That there is such a way exactly if some node has a fault holds of every tree
(`Diagnostic.ofTree?_eq_none_iff`).

* `Cli.Prepared` and `Cli.StopsAt` are the two ways in which the steps can go, and
  `Cli.exists_prepared_or_stopsAt` says that there is no third one.
* `Format.printed` is what is printed of a tree, and `Format.toList_render` says that it is.
* `Cli.verdict_is_of_parse`: the verdict of the command line is the one of the parse.
-/

namespace OrderedChoice

namespace Cli

/-! ### What is printed -/

/-- **What is printed of a tree.** In the text form it is a line for each node in pre-order, in the
JSON form the object of the tree with a line feed at its end. -/
def Format.printed (source : String) (tree : Tree) : Format → List Char
  | .tree => (tree.preorder 0).flatMap fun (depth, node) => node.row source depth ++ ['\n']
  | .json => (tree.object source).pretty 0 ++ ['\n']

theorem Format.toList_render (source : String) (tree : Tree) (format : Format) :
    (format.render source tree).toList = format.printed source tree := by
  cases format with
  | tree => exact tree.toList_toText source
  | json => exact tree.toList_toJson source

section

variable [PatternEngine] {files : Files} {path file : String} {asked : Option String}

/-! ### The steps before a parse -/

/-- **A grammar is loaded** from the file at a path: the file can be read, and its text is the
document of that grammar. -/
def Loads (files : Files) (path : String) (grammar : Grammar) : Prop :=
  ∃ text, files path = some text ∧ Grammar.ofDocument text = .ok grammar

/-- **All is there for a parse**: the grammar, the symbol and the source text. -/
structure Prepared (files : Files) (path : String) (asked : Option String) (file : String)
    (grammar : Grammar) (symbol source : String) : Prop where
  /-- The grammar is loaded. -/
  loads : Loads files path grammar
  /-- The symbol is the one that is asked for, or else the start symbol. -/
  chosen : asked.or grammar.start = some symbol
  /-- It is a nonterminal. -/
  nonterminal : grammar.isNonterminal symbol = true
  /-- The source text can be read. -/
  readable : files file = some source

/-- **The first step that fails**, of loading the grammar, choosing the symbol and reading the
source text in this order. -/
inductive StopsAt (files : Files) (path : String) (asked : Option String) (file : String) :
    Failure → Prop where
  /-- The file of the grammar cannot be read. -/
  | unreadable : files path = none → StopsAt files path asked file (.error (.unreadable path))
  /-- Its text is no document of a grammar. -/
  | refused {text : String} {e : Error} : files path = some text →
      Grammar.ofDocument text = .error e → StopsAt files path asked file (.error e)
  /-- No symbol is asked for, and the grammar has no start symbol. -/
  | noStart {grammar : Grammar} : Loads files path grammar → asked.or grammar.start = none →
      StopsAt files path asked file .noStart
  /-- The symbol is no nonterminal. -/
  | noSuch {grammar : Grammar} {symbol : String} : Loads files path grammar →
      asked.or grammar.start = some symbol → grammar.isNonterminal symbol = false →
      StopsAt files path asked file (.error (.noSuchNonterminal symbol))
  /-- The source text cannot be read. -/
  | noSource {grammar : Grammar} {symbol : String} : Loads files path grammar →
      asked.or grammar.start = some symbol → grammar.isNonterminal symbol = true →
      files file = none → StopsAt files path asked file (.error (.unreadable file))

theorem Loads.loadGrammar_eq {grammar : Grammar} (h : Loads files path grammar) :
    loadGrammar files path = .ok grammar := by
  obtain ⟨text, htext, hgrammar⟩ := h
  rw [loadGrammar, readFile, htext]
  change (Grammar.ofDocument text).mapError Failure.error = .ok grammar
  rw [hgrammar]
  rfl

/-- A file has one grammar only. -/
theorem Loads.unique {grammar grammar' : Grammar} (h : Loads files path grammar)
    (h' : Loads files path grammar') : grammar = grammar' :=
  Except.ok.inj (h.loadGrammar_eq.symm.trans h'.loadGrammar_eq)

theorem Prepared.unique {grammar grammar' : Grammar} {symbol symbol' source source' : String}
    (h : Prepared files path asked file grammar symbol source)
    (h' : Prepared files path asked file grammar' symbol' source') :
    grammar = grammar' ∧ symbol = symbol' ∧ source = source' := by
  obtain rfl := h.loads.unique h'.loads
  refine ⟨rfl, ?_, ?_⟩
  · exact Option.some.inj (h.chosen.symm.trans h'.chosen)
  · exact Option.some.inj (h.readable.symm.trans h'.readable)

theorem chooseSymbol_eq (grammar : Grammar) (asked : Option String) :
    chooseSymbol grammar asked =
      match asked.or grammar.start with
      | none => .error .noStart
      | some symbol =>
        if grammar.isNonterminal symbol then .ok symbol
        else .error (.error (.noSuchNonterminal symbol)) := by
  cases asked <;> rfl

/-- **The steps before a parse succeed, or one of them is the first to fail.** -/
theorem exists_prepared_or_stopsAt (files : Files) (path : String) (asked : Option String)
    (file : String) :
    (∃ grammar symbol source, Prepared files path asked file grammar symbol source) ∨
      ∃ failure, StopsAt files path asked file failure := by
  cases htext : files path with
  | none => exact .inr ⟨_, .unreadable htext⟩
  | some text =>
    cases hgrammar : Grammar.ofDocument text with
    | error e => exact .inr ⟨_, .refused htext hgrammar⟩
    | ok grammar =>
      have hloads : Loads files path grammar := ⟨text, htext, hgrammar⟩
      cases hchosen : asked.or grammar.start with
      | none => exact .inr ⟨_, .noStart hloads hchosen⟩
      | some symbol =>
        cases hsymbol : grammar.isNonterminal symbol with
        | false => exact .inr ⟨_, .noSuch hloads hchosen hsymbol⟩
        | true =>
          cases hsource : files file with
          | none => exact .inr ⟨_, .noSource hloads hchosen hsymbol hsource⟩
          | some source => exact .inl ⟨_, _, _, hloads, hchosen, hsymbol, hsource⟩

/-! ### Parsing a file -/

/-- Where a step fails, the command fails with it. -/
theorem StopsAt.runParse_eq {failure : Failure} (h : StopsAt files path asked file failure)
    (format : Format) : runParse files path asked format file = .error failure := by
  cases h with
  | unreadable htext => rw [runParse, loadGrammar, readFile, htext]; rfl
  | refused htext hgrammar =>
    rw [runParse, loadGrammar, readFile, htext]
    simp only [bind, Except.bind, hgrammar, Except.mapError]
  | noStart hloads hchosen =>
    rw [runParse, hloads.loadGrammar_eq]
    simp only [bind, Except.bind, chooseSymbol_eq, hchosen]
  | noSuch hloads hchosen hsymbol =>
    rw [runParse, hloads.loadGrammar_eq]
    simp only [bind, Except.bind, chooseSymbol_eq, hchosen, hsymbol, Bool.false_eq_true, if_false]
  | noSource hloads hchosen hsymbol hsource =>
    rw [runParse, hloads.loadGrammar_eq]
    simp only [bind, Except.bind, chooseSymbol_eq, hchosen, hsymbol, if_true, readFile, hsource]

/-- With all that is needed, the command does what the parse does. -/
theorem Prepared.runParse_eq {grammar : Grammar} {symbol source : String}
    (h : Prepared files path asked file grammar symbol source) (format : Format) :
    runParse files path asked format file =
      match grammar.parse source symbol with
      | .error e => .error (.noTree e)
      | .ok tree =>
        .ok ⟨format.render source tree, (Diagnostic.ofTree? source tree).map .mismatch⟩ := by
  rw [runParse, h.loads.loadGrammar_eq]
  simp only [bind, Except.bind, chooseSymbol_eq, h.chosen, h.nonterminal, if_true, readFile,
    h.readable]
  cases grammar.parse source symbol <;> rfl

theorem Prepared.run_eq {grammar : Grammar} {symbol source : String} {tree : Tree}
    (h : Prepared files path asked file grammar symbol source)
    (htree : grammar.parse source symbol = .ok tree) (format : Format) :
    (Command.parse path asked format file).run files =
      ⟨format.render source tree, (Diagnostic.ofTree? source tree).map .mismatch⟩ := by
  simp only [Command.run, h.runParse_eq format, htree]

theorem StopsAt.run_eq {failure : Failure} (h : StopsAt files path asked file failure)
    (format : Format) :
    (Command.parse path asked format file).run files = .failed failure := by
  simp only [Command.run, h.runParse_eq format]

/-- No step fails because of the command line, so the status is one. -/
theorem StopsAt.status_eq {failure : Failure} (h : StopsAt files path asked file failure) :
    failure.status = 1 := by
  cases h <;> rfl

/-- The exit status of a command that has parsed is zero exactly if there is no fault. -/
theorem Prepared.status_eq_zero_iff {grammar : Grammar} {symbol source : String} {tree : Tree}
    (h : Prepared files path asked file grammar symbol source)
    (htree : grammar.parse source symbol = .ok tree) (format : Format) :
    ((Command.parse path asked format file).run files).status = 0 ↔
      ∀ node ∈ tree.nodes, node.fault = none := by
  rw [h.run_eq htree, ← Tree.hasFault_eq_false_iff_nodes,
    ← Diagnostic.ofTree?_eq_none_iff source tree, Outcome.status]
  cases Diagnostic.ofTree? source tree with
  | none => exact ⟨fun _ => rfl, fun _ => rfl⟩
  | some diagnostic => exact ⟨nofun, nofun⟩

/-- **A source text matches a symbol as a whole**: matching the symbol at its beginning returns a
node without a fault, and only white space and comments follow up to the end of the text. -/
def MatchesWhole (grammar : Grammar) (symbol source : String) : Prop :=
  ∃ id root, grammar.table.idOf? symbol = some id ∧
    grammar.Returns source.toList id 0 root ∧ root.fault = none ∧
    skipFrom grammar.comments source.toList root.stop = .ok (Text.byteLength source.toList)

/-- A tree is without a fault exactly if the text matches as a whole. -/
theorem faultless_iff_matchesWhole {grammar : Grammar} {symbol source : String} {tree : Tree}
    (h : grammar.parse source symbol = .ok tree) :
    (∀ node ∈ tree.nodes, node.fault = none) ↔ MatchesWhole grammar symbol source := by
  obtain ⟨hsymbol, -⟩ := Grammar.parse_eq_ok_iff.1 h
  obtain ⟨root, place, hmatch, hends⟩ := Grammar.exists_of_parse_eq_ok h
  have hbegin : (Place.begin source.toList).At source.toList := Place.at_begin source.toList
  obtain ⟨hle, hstop⟩ := hmatch.le
  have hid := Grammar.idOf?_eq_some_iff.2 ⟨Table.mem_names_of_contains hsymbol, rfl⟩
  -- The node of the symbol is the one that the parse began with, and there is only one.
  have hroot : ∀ root', grammar.Returns source.toList
      ((Table.names grammar.rules).idxOf symbol) 0 root' ↔ root' = root := by
    intro root'
    have hzero : Place.ofOffset source.toList 0 = .begin source.toList := hbegin.eq_ofOffset.symm
    rw [Grammar.returns_iff hid, hzero]
    constructor
    · rintro ⟨next, hmatch'⟩
      exact (hmatch'.unique hmatch).1
    · rintro rfl
      exact ⟨place, hmatch⟩
  rw [← Tree.hasFault_eq_false_iff_nodes,
    hends.hasFault_eq_false_iff hmatch.fails.1 (hbegin.of_le hle), ← hstop]
  constructor
  · rintro ⟨hfault, hskip⟩
    exact ⟨_, root, hid, (hroot root).2 rfl, hfault, hskip⟩
  · rintro ⟨id, root', hid', hreturns, hfault, hskip⟩
    obtain rfl := Option.some.inj (hid.symm.trans hid')
    obtain rfl := (hroot root').1 hreturns
    exact ⟨hfault, hskip⟩

/-! ### The verdict -/

/-- **The verdict on a file is the one of the parse.** -/
structure VerdictIsOfParse (files : Files) (path : String) (asked : Option String)
    (format : Format) (file : String) : Prop where
  /-- The exit status is zero exactly if all is there for a parse and no node of its tree has a
  fault. -/
  status_eq_zero_iff : ((Command.parse path asked format file).run files).status = 0 ↔
    ∃ grammar symbol source tree, Prepared files path asked file grammar symbol source ∧
      grammar.parse source symbol = .ok tree ∧ ∀ node ∈ tree.nodes, node.fault = none
  /-- This is so exactly if the source text matches the symbol as a whole. -/
  faultless_iff : ∀ grammar symbol source tree,
    Prepared files path asked file grammar symbol source →
      grammar.parse source symbol = .ok tree →
      ((∀ node ∈ tree.nodes, node.fault = none) ↔ MatchesWhole grammar symbol source)
  /-- With or without a fault, the whole tree is printed in the form that is asked for. -/
  printed : ∀ grammar symbol source tree,
    Prepared files path asked file grammar symbol source →
      grammar.parse source symbol = .ok tree →
      ((Command.parse path asked format file).run files).output.toList =
        format.printed source tree
  /-- If something is lacking, nothing is printed, the exit status is one, and the failure is that
  of the first step that fails. -/
  stopped : (¬ ∃ grammar symbol source, Prepared files path asked file grammar symbol source) →
    ∃ failure, StopsAt files path asked file failure ∧
      ((Command.parse path asked format file).run files).output = "" ∧
      ((Command.parse path asked format file).run files).failure = some failure ∧
      ((Command.parse path asked format file).run files).status = 1

theorem verdictIsOfParse (format : Format)
    (hreturns : ∀ grammar symbol source, Prepared files path asked file grammar symbol source →
      ∃ tree, grammar.parse source symbol = .ok tree) :
    VerdictIsOfParse files path asked format file := by
  refine ⟨⟨fun hstatus => ?_, ?_⟩, ?_, ?_, fun hlacking => ?_⟩
  · rcases exists_prepared_or_stopsAt files path asked file with
      ⟨grammar, symbol, source, hprepared⟩ | ⟨failure, hstops⟩
    · obtain ⟨tree, htree⟩ := hreturns grammar symbol source hprepared
      refine ⟨grammar, symbol, source, tree, hprepared, htree, ?_⟩
      exact (hprepared.status_eq_zero_iff htree format).1 hstatus
    · -- A step that fails does not leave the status at zero.
      rw [hstops.run_eq format] at hstatus
      exact absurd (hstops.status_eq.symm.trans hstatus) (by decide)
  · rintro ⟨grammar, symbol, source, tree, hprepared, htree, hfaultless⟩
    exact (hprepared.status_eq_zero_iff htree format).2 hfaultless
  · intro grammar symbol source tree _ htree
    exact faultless_iff_matchesWhole htree
  · intro grammar symbol source tree hprepared htree
    rw [hprepared.run_eq htree format]
    exact format.toList_render source tree
  · rcases exists_prepared_or_stopsAt files path asked file with hprepared | ⟨failure, hstops⟩
    · exact absurd hprepared hlacking
    · rw [hstops.run_eq format]
      exact ⟨failure, hstops, rfl, rfl, hstops.status_eq⟩

/-! ### Checking a grammar -/

/-- A grammar that is not loaded is an error of its own. -/
theorem exists_loads_or_error (files : Files) (path : String) :
    (∃ grammar, Loads files path grammar) ∨ ∃ e, loadGrammar files path = .error (.error e) := by
  cases htext : files path with
  | none =>
    refine .inr ⟨.unreadable path, ?_⟩
    rw [loadGrammar, readFile, htext]
    rfl
  | some text =>
    cases hgrammar : Grammar.ofDocument text with
    | ok grammar => exact .inl ⟨grammar, text, htext, hgrammar⟩
    | error e =>
      refine .inr ⟨e, ?_⟩
      rw [loadGrammar, readFile, htext]
      simp only [bind, Except.bind, hgrammar, Except.mapError]

theorem Loads.check_eq {grammar : Grammar} (h : Loads files path grammar) :
    (Command.check path).run files =
      ⟨grammar.report false, if grammar.passesCheck then none else some .findings⟩ := by
  simp only [Command.run, runCheck, h.loadGrammar_eq, bind, Except.bind, pure, Except.pure]

theorem check_eq_of_error {failure : Failure} (h : loadGrammar files path = .error failure) :
    (Command.check path).run files = .failed failure := by
  simp only [Command.run, runCheck, h, bind, Except.bind]

/-- **The status of a check is zero** exactly if the grammar is loaded and nothing is found. -/
theorem check_status_eq_zero_iff (files : Files) (path : String) :
    ((Command.check path).run files).status = 0 ↔
      ∃ grammar, Loads files path grammar ∧ grammar.selfProducing = [] ∧
        grammar.leftRecursive = [] := by
  constructor
  · intro hstatus
    rcases exists_loads_or_error files path with ⟨grammar, hloads⟩ | ⟨e, herror⟩
    · refine ⟨grammar, hloads, ?_⟩
      rw [hloads.check_eq] at hstatus
      cases hpasses : grammar.passesCheck with
      | true =>
        rw [Grammar.passesCheck, Bool.and_eq_true, List.isEmpty_iff, List.isEmpty_iff] at hpasses
        exact hpasses
      | false =>
        rw [hpasses] at hstatus
        cases hstatus
    · rw [check_eq_of_error herror] at hstatus
      cases hstatus
  · rintro ⟨grammar, hloads, hself, hleft⟩
    have hpasses : grammar.passesCheck = true := by
      rw [Grammar.passesCheck, hself, hleft]
      rfl
    rw [hloads.check_eq, hpasses]
    rfl

/-! ### What does not happen -/

/-- **A command never parses as something that is no nonterminal.** -/
theorem Command.run_failure_ne_unknownSymbol (files : Files) (command : Command)
    (symbol : String) : (command.run files).failure ≠ some (.noTree (.unknownSymbol symbol)) := by
  cases command with
  | check path =>
    rcases exists_loads_or_error files path with ⟨grammar, hloads⟩ | ⟨e, herror⟩
    · rw [hloads.check_eq]
      cases grammar.passesCheck <;> exact nofun
    · rw [check_eq_of_error herror]
      exact nofun
  | parse path asked format file =>
    rcases exists_prepared_or_stopsAt files path asked file with
      ⟨grammar, chosen, source, hprepared⟩ | ⟨failure, hstops⟩
    · simp only [Command.run, hprepared.runParse_eq format]
      cases hparse : grammar.parse source chosen with
      | ok tree =>
        -- What a tree leads to is a diagnostic, or nothing.
        cases hdiagnostic : Diagnostic.ofTree? source tree with
        | none => simp only [hdiagnostic, Option.map_none, ne_eq, reduceCtorEq, not_false_eq_true]
        | some diagnostic =>
          simp only [hdiagnostic, Option.map_some, ne_eq, Option.some.injEq, reduceCtorEq,
            not_false_eq_true]
      | error e =>
        -- The symbol has been looked up before, so the parse can only be endless.
        intro h
        obtain rfl : e = .unknownSymbol symbol := Failure.noTree.inj (Option.some.inj h)
        have hsymbol := (Grammar.parse_eq_unknownSymbol_iff.1 hparse).1
        rw [hprepared.nonterminal] at hsymbol
        cases hsymbol
    · rw [hstops.run_eq format]
      intro h
      have hfailure : failure = .noTree (.unknownSymbol symbol) := Option.some.inj h
      subst hfailure
      cases hstops

/-- **The verdict of the command line is the one of the parse.** For every command to parse a file
whose parse does not go on for ever, the exit status, what is printed and the failure are as
`VerdictIsOfParse` says. No command line leads to a parse as something that is no nonterminal, and
the exit status of a check is zero exactly if the grammar is loaded and both lists of findings are
empty. -/
theorem verdict_is_of_parse (files : Files) (path : String) (asked : Option String)
    (format : Format) (file : String)
    (hreturns : ∀ grammar symbol source, Prepared files path asked file grammar symbol source →
      ∃ tree, grammar.parse source symbol = .ok tree) :
    VerdictIsOfParse files path asked format file ∧
    (∀ arguments symbol,
      (run files arguments).failure ≠ some (.noTree (.unknownSymbol symbol))) ∧
    (((Command.check path).run files).status = 0 ↔
      ∃ grammar, Loads files path grammar ∧ grammar.selfProducing = [] ∧
        grammar.leftRecursive = []) := by
  refine ⟨verdictIsOfParse format hreturns, fun arguments symbol => ?_,
    check_status_eq_zero_iff files path⟩
  rw [run]
  cases Command.ofArguments arguments with
  | error e => exact nofun
  | ok command => exact command.run_failure_ne_unknownSymbol files symbol

end

/-! ### Two files -/

/-- The document of the grammar of rows of words. -/
def rowDocument : String :=
  "\x7b\"start\": \"Row\", \"comments\": [[\"/*\", \"*/\"]], \"rules\": " ++
    "\x7b\"Word\": [[\"a\"], [\"b\"]], \"Row\": [[\"Word\", \"Row\"], []]\x7d\x7d"

/-- A row with a comment, and with a word that there is not. -/
def rowText : String := "a /*\"\n*/ z"

/-- The document and the row. -/
def rowFiles : Files := fun path =>
  if path = "rows.json" then some rowDocument else if path = "row.txt" then some rowText else none

/-- The tree of the row: the second word is left over. -/
def rowTree : Tree :=
  ⟨"Row", 0, 9, [⟨"Word", 0, 1, [⟨"a", 0, 1, [], none⟩], none⟩, ⟨"Row", 9, 9, [], none⟩,
    .failed "" 9 (.unparsableAfter "Row")], none⟩

/-- The lines of its JSON form. -/
def rowLines : List String :=
  ["\x7b",
    "  \"symbol\": \"Row\",", "  \"start\": 0,", "  \"end\": 9,",
    "  \"content\": \"a /*\\\"\\n*/ \",",
    "  \"children\": [",
    "    \x7b",
    "      \"symbol\": \"Word\",", "      \"start\": 0,", "      \"end\": 1,",
    "      \"content\": \"a\",",
    "      \"children\": [",
    "        \x7b",
    "          \"symbol\": \"a\",", "          \"start\": 0,", "          \"end\": 1,",
    "          \"content\": \"a\",",
    "          \"children\": []",
    "        \x7d",
    "      ]",
    "    \x7d,",
    "    \x7b",
    "      \"symbol\": \"Row\",", "      \"start\": 9,", "      \"end\": 9,",
    "      \"content\": \"\",",
    "      \"children\": []",
    "    \x7d,",
    "    \x7b",
    "      \"symbol\": \"\",", "      \"start\": 9,", "      \"end\": 9,",
    "      \"content\": \"\",",
    "      \"error\": \"Unparsable code after symbol [Row]\",",
    "      \"children\": []",
    "    \x7d",
    "  ]",
    "\x7d"]

theorem ofDocument_rowDocument : Grammar.ofDocument rowDocument = .ok Grammar.rows := by
  have hdocument : Document.ofText? rowDocument = some ⟨some "Row", Grammar.rows.comments,
      [("Word", [⟨["a"]⟩, ⟨["b"]⟩]), ("Row", [⟨["Word", "Row"]⟩, ⟨[]⟩])]⟩ := by cbv
  have hrules : Rules.ofEntries [("Word", [⟨["a"]⟩, ⟨["b"]⟩]), ("Row", [⟨["Word", "Row"]⟩, ⟨[]⟩])] =
      .ok Grammar.rowRules := by cbv
  rw [Grammar.ofDocument, hdocument]
  exact Grammar.ofEntries_eq_ok_iff.2 ⟨hrules, rfl, rfl⟩

theorem prepared_rowFiles :
    Prepared rowFiles "rows.json" none "row.txt" Grammar.rows "Row" rowText where
  loads := ⟨rowDocument, rfl, ofDocument_rowDocument⟩
  chosen := rfl
  nonterminal := rfl
  readable := rfl

theorem verdict_is_of_parse_rowFiles :
    (∀ grammar symbol source,
      Prepared rowFiles "rows.json" none "row.txt" grammar symbol source →
        ∃ tree, grammar.parse source symbol = .ok tree) ∧
      (∀ format, VerdictIsOfParse rowFiles "rows.json" none format "row.txt" ∧
        ((Command.parse "rows.json" none format "row.txt").run rowFiles).status ≠ 0) ∧
      ((Command.parse "rows.json" none .tree "row.txt").run rowFiles).output =
        "Row [0..9]\n  Word [0..1]\n    a [0..1] \"a\"\n  Row [9..9] \"\"\n" ++
          "  <input> [9..9] Unparsable code after symbol [Row]\n" ∧
      ((Command.parse "rows.json" none .json "row.txt").run rowFiles).output =
        String.join (rowLines.map (· ++ "\n")) := by
  have hparse : Grammar.rows.parse rowText "Row" = .ok rowTree := by cbv
  have hreturns : ∀ grammar symbol source,
      Prepared rowFiles "rows.json" none "row.txt" grammar symbol source →
        ∃ tree, grammar.parse source symbol = .ok tree := by
    intro grammar symbol source hprepared
    obtain ⟨rfl, rfl, rfl⟩ := prepared_rowFiles.unique hprepared
    exact ⟨_, hparse⟩
  have hverdict : ∀ format, VerdictIsOfParse rowFiles "rows.json" none format "row.txt" :=
    fun format => (verdict_is_of_parse rowFiles "rows.json" none format "row.txt" hreturns).1
  have hprinted : ∀ format,
      ((Command.parse "rows.json" none format "row.txt").run rowFiles).output.toList =
        format.printed rowText rowTree :=
    fun format => (hverdict format).printed _ _ _ _ prepared_rowFiles hparse
  refine ⟨hreturns, fun format => ⟨hverdict format, fun hstatus => ?_⟩, ?_, ?_⟩
  · -- The last child of the root has a fault, so the status cannot be zero.
    obtain ⟨grammar, symbol, source, tree, hprepared, htree, hfaultless⟩ :=
      (hverdict format).status_eq_zero_iff.1 hstatus
    obtain ⟨rfl, rfl, rfl⟩ := prepared_rowFiles.unique hprepared
    obtain rfl := Except.ok.inj (hparse.symm.trans htree)
    have hnode := hfaultless (.failed "" 9 (.unparsableAfter "Row"))
      (Tree.mem_nodes.2 (.inr ⟨_, List.mem_of_getLast? rfl, Tree.self_mem_nodes _⟩))
    cases hnode
  · exact String.toList_inj.1 ((hprinted .tree).trans (by decide +kernel))
  · refine String.toList_inj.1 ((hprinted .json).trans ?_)
    -- The lines are compared letter by letter, which is faster than to join them first.
    rw [String.toList_join, List.flatMap_map]
    simp only [String.toList_append]
    decide +kernel

end Cli

end OrderedChoice
