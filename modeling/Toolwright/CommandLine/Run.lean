import Toolwright.CommandLine.Invocation
import Toolwright.Console.Table

/-!
# Running the program

What the program says and does for a command line, as a function of the files there are. Nothing here
reads or writes anything; that is left to the outermost layer.
-/

namespace Toolwright

open CommandLine

/-- What the terminal says about itself. -/
structure Terminal where
  /-- The numbers of its colours. -/
  announcement? : Option String := none
  /-- Whether it is to see no colours at all. -/
  colorless : Bool := false
  /-- The number of cells in a line. -/
  width : Nat := 80
  /-- Whether the output goes to a terminal at all. -/
  isPresent : Bool := false
  deriving Inhabited

/-- What the program has said and done. -/
structure Outcome where
  exitCode : Nat := 0
  report : Report := []
  palette : Palette := ⟨false, .dark⟩
  tree : FileTree
  deriving Inhabited

/-! ### Lists of tools -/

namespace Listing

/-- The table of some tools. -/
def table (tools : List Tool) : Table where
  header := ["TOOL", "METHOD", "PATH"].map fun title => { text := title.toList }
  rows := tools.map fun tool =>
    [{ text := tool.name.toList }, { text := tool.method.toList, alignment := .right },
      { text := tool.path.toList }]

/-- The report on the tools of a document. -/
def report (terminal : Terminal) (document : Document) (path : String) : Report :=
  let (tools, statistics) := document.tools (Metadata.service path)
  let skipped := statistics.skippedOperations
  (Stream.output, Line.plain ((table tools).render terminal.width)) ::
    if skipped = 0 then []
    else
      [(.output, .plain (toString skipped ++ " operations without an operationId were skipped"))]

end Listing

/-- A text with every line set in. -/
def setIn (text : String) : String :=
  String.ofList
    (List.intercalate ['\n'] ((Text.pieces (· == '\n') text.toList).map ("    ".toList ++ ·)))

/-- A message for a document that cannot be loaded and, below it, what caused that. -/
def LoadError.account (error : LoadError) : String :=
  error.message ++ ((error.cause?.map fun cause => "\n\nCaused by:\n" ++ setIn cause).getD "")

namespace Invocation

/-- The message with which the program fails. -/
def failing (message : String) : Stream × Line := (.error, .plain ("Error: " ++ message))

/-- What is said and done after a batch that does not succeed. -/
def afterError (palette : Palette) (batch : Batch) (error : BatchError) : Outcome :=
  let message := error.message
  if error.breaksOff then
    { exitCode := 101, report := batch.report ++ [(.error, .plain message)], palette
      tree := batch.tree }
  else
    { exitCode := 1, report := batch.report ++ [failing message], palette, tree := batch.tree }

/-- The colours for an invocation. -/
def palette (invocation : Invocation) (terminal : Terminal) : Palette where
  enabled :=
    match invocation.color with
    | .always => true
    | .auto => terminal.isPresent
    | .never => false
  theme := invocation.theme?.getD (Theme.detect terminal.announcement?)

/-- What is said and done for an invocation. -/
def run (invocation : Invocation) (terminal : Terminal) (tree : FileTree) : Outcome :=
  let palette := invocation.palette terminal
  match invocation.task with
  | .generate options =>
    match Batch.run options tree with
    | (batch, none) => { report := batch.report, palette, tree := batch.tree }
    | (batch, some error) => afterError palette batch error
  | .listOperations path =>
    match tree.document path with
    | .ok document => { report := Listing.report terminal document path, palette, tree }
    | .error error => { exitCode := 1, report := [failing error.account], palette, tree }

end Invocation

/-- A text that ends with a line break, as lines of a report. -/
def textReport (stream : Stream) (text : String) : Report :=
  [(stream, .plain (String.ofList (text.toList.dropLast)))]

/-- What is said and done if reading stops. -/
def CommandLine.Stop.outcome (tree : FileTree) : Stop → Outcome
  | .help text => { report := textReport .output text, tree }
  | .helpInstead text => { exitCode := 2, report := textReport .error text, tree }
  | .version =>
    { report := [(.output, .plain (Invocation.programName ++ " " ++ Invocation.programVersion))]
      tree }
  | .refused refusal => { exitCode := 2, report := textReport .error refusal.message, tree }

/-- What the program says and does for some arguments. -/
def Outcome.ofArguments (arguments : List String) (terminal : Terminal) (tree : FileTree) :
    Outcome :=
  match Invocation.ofArguments arguments with
  | .ok invocation => invocation.run terminal tree
  | .error stop => stop.outcome tree

end Toolwright
