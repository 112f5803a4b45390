import Referent.CommandLine.Flags
import Referent.Reference
import Referent.TypeExpr.Parser

/-!
# Commands

* `Command` — what a command line asks for.
* `parse` — the command of a list of arguments.
* `Query.reference` — the reference that the flags of a resolution describe.
-/

namespace Referent.CommandLine

/-- A resolution: a class in the universe of a file, and the reference to resolve on it
(`ResolveArgs`). -/
structure Query where
  /-- The file of the universe. -/
  file : String
  type : String
  /-- The name that is used; without one all members are listed. -/
  name : Option String
  write : Bool
  /-- The texts of the types of arguments, if the name is called. -/
  call : Option (List String)
  /-- The enclosing closures, innermost first. -/
  closures : List ClosureId
  /-- The method that the innermost closure is passed to. -/
  block : Option String
  /-- How many declarations the text around the name offers. -/
  candidates : UInt64
  /-- How many candidates are enough. -/
  limit : Option UInt64
  json : Bool
  deriving DecidableEq, Repr

/-- What a command line asks for (`Commands`). -/
inductive Command where
  | resolve (query : Query)
  /-- List the members of a class in the universe of a file. -/
  | members (file type : String) (json : Bool)
  /-- Print the schema of universe files. -/
  | schema
  deriving DecidableEq, Repr

/-! ## Flags -/

/-- The flag that every command has (`Cli`). -/
def commonFlags : List Flag :=
  [.switch "log-stderr"]

/-- The flags that tell a class in the universe of a file (`Commands::Members`, and the first of
`ResolveArgs`). -/
def classFlags : List Flag :=
  [.single "universe" (· ≠ ""), .single "class" fun _ => true, .switch "json"]

/-- The flags that describe a reference (`ResolveArgs`). -/
def referenceFlags : List Flag :=
  [.single "name" fun _ => true, .switch "write", .many "call" 0 fun _ => true,
   .many "closure" 1 fun v => (word? v).isSome, .single "block" fun _ => true,
   .single "candidates" fun v => (count? v).isSome, .single "limit" fun v => (count? v).isSome]

/-- The flags of a command line, read as those of one command. -/
def givenFlags (flags : List Flag) (args : List String) : Except Stop (List Given) :=
  gather [] (scan (flags ++ commonFlags) args)

/-- The command `resolve`. -/
def parseResolve (args : List String) : Except Stop Command := do
  let given ← givenFlags (classFlags ++ referenceFlags) args
  let file ← requiredValue given "universe"
  let type ← requiredValue given "class"
  return .resolve
    { file, type
      name := valueOf? given "name"
      write := isGiven given "write"
      call := if isGiven given "call" then some (valuesOf given "call") else none
      closures := (valuesOf given "closure").filterMap word?
      block := valueOf? given "block"
      candidates := ((valueOf? given "candidates").bind count?).getD 1
      limit := (valueOf? given "limit").bind count?
      json := isGiven given "json" }

/-- The command `members`. -/
def parseMembers (args : List String) : Except Stop Command := do
  let given ← givenFlags classFlags args
  let file ← requiredValue given "universe"
  let type ← requiredValue given "class"
  return .members file type (isGiven given "json")

/-- The command `schema`. -/
def parseSchema (args : List String) : Except Stop Command := do
  let _ ← givenFlags [] args
  return .schema

/-- The command `help`, with or without the name of a command. -/
def parseHelp : List String → Except Stop Command
  | [] => .error .help
  | [name] =>
    if ["resolve", "members", "schema", "help"].contains name then .error .help
    else .error .misuse
  | _ => .error .misuse

/-- The command of a list of arguments. `logged` tells that the flag for logging came before. -/
def parseFrom (logged : Bool) : List String → Except Stop Command
  | [] => .error .misuse
  | "resolve" :: rest => parseResolve rest
  | "members" :: rest => parseMembers rest
  | "schema" :: rest => parseSchema rest
  | "help" :: rest => parseHelp rest
  | arg :: rest =>
    match classify arg with
    | .long "version" none => .error .version
    | .long "help" none => .error .help
    | .long "log-stderr" none => if logged then .error .misuse else parseFrom true rest
    | .short ('V' :: _) => .error .version
    | .short ('h' :: _) => .error .help
    | _ => .error .misuse

/-- The command of a list of arguments. -/
def parse (args : List String) : Except Stop Command :=
  parseFrom false args

/-! ## References -/

namespace Query

/-- The closures of the reference; a block without a closure opens the closure `0`
(`to_reference`). -/
def scopes (q : Query) : List ClosureId :=
  if q.closures.isEmpty && q.block.isSome then [0] else q.closures

/-- The enclosing closures. The block belongs to the innermost one (`to_reference`). -/
def enclosing (q : Query) : List Closure :=
  match q.scopes with
  | [] => []
  | id :: ids => ⟨id, q.block⟩ :: ids.map fun id => ⟨id, none⟩

/-- The reference that the flags describe, unless the type of an argument cannot be read
(`to_reference`). -/
def reference (q : Query) : Except TypeExpr.ParseError Reference := do
  let name := q.name.getD ""
  let parent ← match q.call with
    | some texts => do
      let arguments ← texts.mapM TypeExpr.parse
      pure (.methodCall ⟨some name, arguments⟩)
    | none => pure .other
  return ⟨name, if q.write then .write else .read, parent, q.enclosing, q.candidates⟩

end Query

end Referent.CommandLine
