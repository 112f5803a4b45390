/-!
# Flags of a command line

Arguments are split into flags with their values: `--name value`, `--name=value`, or several values
up to the next flag. Only flags with two dashes have values, and a single dash is a value.

* `Flag` — a flag: how many values it takes, which ones, and whether it may be repeated.
* `scan` — the flags that are given, up to the first argument that is out of place.
* `gather` — all flags that are given, or why there is nothing to run.
-/

namespace Referent.CommandLine

/-- How many values a flag takes. -/
inductive Takes where
  | nothing
  | one
  /-- At least so many. -/
  | several (least : Nat)
  deriving DecidableEq, Repr

/-- A flag of a command. -/
structure Flag where
  /-- The name without its dashes. -/
  name : String
  takes : Takes
  /-- The flag may be given more than once. Its values add up. -/
  repeats : Bool
  /-- The values that the flag takes. -/
  accepts : String → Bool

namespace Flag

/-- A flag without a value. -/
def switch (name : String) : Flag :=
  ⟨name, .nothing, false, fun _ => true⟩

/-- A flag with one value. -/
def single (name : String) (accepts : String → Bool) : Flag :=
  ⟨name, .one, false, accepts⟩

/-- A flag with several values, which may be repeated. -/
def many (name : String) (least : Nat) (accepts : String → Bool) : Flag :=
  ⟨name, .several least, true, accepts⟩

end Flag

/-- Why a command line gives nothing to run. -/
inductive Stop where
  /-- The arguments do not fit the commands and their flags. -/
  | misuse
  | help
  | version
  deriving DecidableEq, Repr

/-! ## Scanning -/

/-- A flag that is given and its values. -/
structure Given where
  name : String
  values : List String
  deriving DecidableEq, Repr

/-- What an argument is. -/
inductive Argument where
  /-- Two dashes alone. -/
  | ending
  /-- A flag, and what follows an equals sign. -/
  | long (name : String) (value : Option String)
  /-- A single dash with letters. -/
  | short (letters : List Char)
  | value
  deriving DecidableEq, Repr

/-- What an argument looks like. -/
def classify (arg : String) : Argument :=
  match arg.toList with
  | ['-', '-'] => .ending
  | '-' :: '-' :: cs =>
    match cs.dropWhile (· ≠ '=') with
    | [] => .long (String.ofList cs) none
    | _ :: value => .long (String.ofList (cs.takeWhile (· ≠ '='))) (some (String.ofList value))
  | '-' :: c :: cs => .short (c :: cs)
  | _ => .value

/-- The argument can be the value of a flag before it. -/
def isValue (arg : String) : Bool :=
  classify arg == .value

/-- Something that is found on a command line. -/
inductive Item where
  | given (flag : Flag) (values : List String)
  | help
  /-- An argument that is out of place. Nothing after it is looked at. -/
  | stray

/-- The flags in order, up to the first argument that is out of place. After two dashes alone
nothing may follow. -/
def scan (flags : List Flag) (args : List String) : List Item :=
  match args with
  | [] => []
  | arg :: rest =>
    match classify arg with
    | .ending => if rest = [] then [] else [.stray]
    | .value => [.stray]
    | .short letters => if letters.head? = some 'h' then [.help] else [.stray]
    | .long name value =>
      if name = "help" ∧ value = none then [.help]
      else
        match flags.find? (·.name == name), value with
        | none, _ => [.stray]
        | some flag, some v =>
          if flag.takes = .nothing then [.stray] else .given flag [v] :: scan flags rest
        | some flag, none =>
          match flag.takes with
          | .nothing => .given flag [] :: scan flags rest
          | .one =>
            let values := (rest.take 1).filter isValue
            if values = [] then [.stray] else .given flag values :: scan flags (rest.drop 1)
          | .several least =>
            let values := rest.takeWhile isValue
            if values.length < least then [.stray]
            else .given flag values :: scan flags (rest.dropWhile isValue)
termination_by args.length
decreasing_by
  all_goals simp only [List.length_cons, List.length_drop]
  · omega
  · omega
  · omega
  · have := (List.dropWhile_sublist isValue (l := rest)).length_le
    omega

/-- All flags that are given. A flag that may not be repeated, or a value that the flag does not
take, stops at that flag. -/
def gather (given : List Given) : List Item → Except Stop (List Given)
  | [] => .ok given
  | .help :: _ => .error .help
  | .stray :: _ => .error .misuse
  | .given flag values :: items =>
    if !flag.repeats && given.any (·.name == flag.name) then .error .misuse
    else if !values.all flag.accepts then .error .misuse
    else gather (given ++ [⟨flag.name, values⟩]) items

/-! ## Values -/

/-- The flag is given. -/
def isGiven (given : List Given) (name : String) : Bool :=
  given.any (·.name == name)

/-- All values of a flag in order. -/
def valuesOf (given : List Given) (name : String) : List String :=
  (given.filter (·.name == name)).flatMap (·.values)

/-- The value of a flag that takes one. -/
def valueOf? (given : List Given) (name : String) : Option String :=
  (valuesOf given name).head?

/-- The value of a flag that must be there. -/
def requiredValue (given : List Given) (name : String) : Except Stop String :=
  match valueOf? given name with
  | some v => .ok v
  | none => .error .misuse

/-! ## Numbers -/

/-- The number that decimal digits write, if there is at least one digit and nothing else. -/
def digits? (cs : List Char) : Option Nat :=
  if cs ≠ [] ∧ cs.all Char.isDigit then
    some (cs.foldl (fun n d => n * 10 + (d.toNat - '0'.toNat)) 0)
  else none

/-- A natural number with or without a plus sign. -/
def natural? (text : String) : Option Nat :=
  match text.toList with
  | '+' :: cs => digits? cs
  | cs => digits? cs

/-- A number of 64 bits. -/
def count? (text : String) : Option UInt64 :=
  (natural? text).bind fun n => if n < UInt64.size then some (UInt64.ofNat n) else none

/-- A number of 32 bits. Zero may have a minus sign. -/
def word? (text : String) : Option UInt32 :=
  let n? := match text.toList with
    | '-' :: cs => (digits? cs).filter (· == 0)
    | _ => natural? text
  n?.bind fun n => if n < UInt32.size then some (UInt32.ofNat n) else none

end Referent.CommandLine
