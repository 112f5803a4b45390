import Referent.CommandLine.Command
import Referent.CommandLine.Schema
import Referent.CommandLine.Table
import Referent.Resolution
import Referent.Text.Quoted
import Referent.Universe

/-!
# Running commands

* `Output` — the exit code and what is written.
* `Action` — what a command does: it writes lines, and it may fail.
* `Command.run` — a command, given the text of the universe file.
* `run` — a list of arguments, given the texts of files.
-/

namespace Referent.CommandLine

/-- What a run leaves: its exit code and the texts written. -/
structure Output where
  exit : UInt32
  stdout : String
  stderr : String
  deriving DecidableEq, Repr

/-- Why a command fails (`ApiError`). -/
inductive Failure where
  /-- The file cannot be read as text. -/
  | unreadable
  /-- The file does not hold a universe. -/
  | document (error : DecodeError)
  | notFound (what : String)
  | invalidArgument (problem : String)
  deriving DecidableEq, Repr

namespace Failure

/-- The failure as the line that reports it shows it (`Debug` of `ApiError`). -/
def text : Failure → String
  | .unreadable => "Io"
  | .document _ => "Json"
  | .notFound what => "NotFound(" ++ Text.quoted what ++ ")"
  | .invalidArgument problem => "InvalidArgument(" ++ Text.quoted problem ++ ")"

end Failure

/-! ## Commands -/

/-- Lines of text, each with its line break. -/
def unlines (lines : List String) : String :=
  String.join (lines.map (· ++ "\n"))

/-- A universe, and the store of its types: what `open_universe` gives. -/
structure Opened where
  contents : Universe
  store : TypeStore

/-- The universe of a file, which must declare the class (`open_universe`). -/
def Opened.load (path type : String) (content : Option String) : Except Failure Opened := do
  let text ← content.elim (.error .unreadable) .ok
  let contents ← (Json.decodeText Universe.ofJson text).mapError .document
  let store ← contents.store.mapError fun e => .invalidArgument e.message
  if store.contains type then return ⟨contents, store⟩
  else throw (.notFound ("class `" ++ type ++ "` in " ++ path))

/-- What a command does: it may fail at any step, and the lines that it wrote by then stay there. -/
abbrev Action : Type :=
  ExceptT Failure (StateM (List String)) Unit

/-- How an action ends, and the lines that are written by then. -/
def Action.perform (action : Action) (lines : List String) : Except Failure Unit × List String :=
  action.run lines

/-- Writes lines behind those that are written (`println!`). -/
def writeLines (lines : List String) : Action :=
  modify (· ++ lines)

/-- The command `members` (`members::run`). -/
def runMembers (path type : String) (json : Bool) (content : Option String) : Action := do
  let opened ← MonadExcept.ofExcept (Opened.load path type content)
  let members := opened.store.system.visibleMembers type
  if json then writeLines [(Json.array (members.map (·.toJson))).pretty]
  else if members.isEmpty then writeLines [type ++ " has no members."]
  else writeLines (memberTable members)

/-- The outcome of a resolution and its candidates as a document holds them (`ResolveReport`). -/
def report (type : String) (outcome : Outcome) (candidates : List Member) : Json :=
  .record [("class", .string type), ("should_continue", .bool outcome.shouldContinue),
    ("resolved", .bool outcome.resolved), ("candidates", .array (candidates.map (·.toJson)))]

/-- What a query resolves to in an opened universe. The imports of every script come after those of
the universe, and its delegates go before those of well-known blocks (the resolver that
`resolve::run` sets up). -/
def Query.resolve (q : Query) (opened : Opened) (reference : Reference) :
    Outcome × Collected :=
  let resolver : Resolver :=
    { system := opened.store.system
      delegation := .script opened.contents.delegation
      imports := opened.contents.resolutionContext }
  resolver.process q.type reference q.name (collect (q.limit.map (·.toNat))) []

/-- The command `resolve` (`resolve::run`). -/
def runResolve (q : Query) (content : Option String) : Action := do
  let opened ← MonadExcept.ofExcept (Opened.load q.file q.type content)
  let reference ←
    MonadExcept.ofExcept (q.reference.mapError fun e => .invalidArgument e.message)
  let (outcome, candidates) := q.resolve opened reference
  if q.json then writeLines [(report q.type outcome candidates).pretty]
  else if candidates.isEmpty then writeLines ["No candidates on " ++ q.type ++ "."]
  else
    writeLines (memberTable candidates)
    if !outcome.shouldContinue then
      writeLines ["(stopped after " ++ toString candidates.length ++ " candidates)"]

namespace Command

/-- The universe file that a command reads (`universe` of `Commands`). -/
def path? : Command → Option String
  | .resolve q => some q.file
  | .members file _ _ => some file
  | .schema => none

/-- What a command does, given the text of its universe file (the `match` of `run`). -/
def action (content : Option String) : Command → Action
  | .resolve q => runResolve q content
  | .members file type json => runMembers file type json content
  | .schema => writeLines [universeSchema.pretty]

/-- What a command leaves, given the text of its universe file. -/
def run (content : Option String) (c : Command) : Output :=
  match (c.action content).perform [] with
  | (.ok (), lines) => ⟨0, unlines lines, ""⟩
  | (.error failure, lines) => ⟨1, unlines lines, "Error: " ++ failure.text ++ "\n"⟩

end Command

/-! ## Command lines -/

/-- How the program is called. -/
def usage : String :=
  unlines ["Usage: dslscope [--log-stderr] <COMMAND>", "", "Commands:",
    "  resolve  Resolve a name used in a script against a class",
    "  members  List every member visible on a class, overrides collapsed",
    "  schema   Print the JSON schema of the type universe file"]

/-- What is left when there is nothing to run. -/
def Stop.output : Stop → Output
  | .misuse => ⟨2, "", usage⟩
  | .help => ⟨0, usage, ""⟩
  | .version => ⟨0, "dslscope 0.1.0\n", ""⟩

/-- What a command line leaves, given the texts of files; none for a file that cannot be read. -/
def run (args : List String) (file : String → Option String) : Output :=
  match parse args with
  | .error stop => stop.output
  | .ok command => command.run (command.path?.bind file)

end Referent.CommandLine
