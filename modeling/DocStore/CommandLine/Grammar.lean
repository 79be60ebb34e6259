import DocStore.CommandLine
import DocStore.Number.Power
import DocStore.Text.Digits

/-!
# Words of a command line

Words are read level by level: first the program's own options up to the name of a command, then the
options and places of that command. Options that every level knows may stand on both; the inner one
counts.
-/

namespace DocStore.CommandLine

inductive Halt where
  | help
  | version
  | misuse
deriving DecidableEq, Repr

/-! ### Levels -/

/-- How often an option may be given, and whether it takes a value. -/
inductive Arity where
  | flag
  | once
  | repeated
  | stop (halt : Halt)

structure OptionRule where
  name : String
  letter : Option Char := none
  arity : Arity := .once
  accepts : String → Bool := fun _ => true

structure Level where
  options : List OptionRule
  places : Nat := 0
  commands : List String := []

structure Given where
  options : List (String × String) := []
  places : List String := []
deriving DecidableEq, Repr

inductive Word where
  | escape
  | long (name : String) (value : Option String)
  | short (letter : Char)
  | plain (text : String)
deriving DecidableEq, Repr

namespace Word

def splitEquals (s : List Char) : List Char × Option (List Char) :=
  match s.dropWhile (· != '=') with
  | [] => (s, none)
  | _ :: value => (s.takeWhile (· != '='), some value)

/-- Of letters that follow a dash only the first one counts. A dash alone is plain. -/
def ofText (s : String) : Word :=
  match s.toList with
  | ['-', '-'] => .escape
  | '-' :: '-' :: rest =>
    let (name, value) := splitEquals rest
    .long (String.ofList name) (value.map String.ofList)
  | '-' :: letter :: _ => .short letter
  | _ => .plain s

end Word

namespace Level

def option? (level : Level) (name : String) : Option OptionRule :=
  level.options.find? (·.name == name)

def addOption (rule : OptionRule) (value : String) (given : Given) : Except Halt Given :=
  let isTaken := match rule.arity with
    | .repeated => false
    | _ => given.options.any (·.1 == rule.name)
  if isTaken || !rule.accepts value then .error .misuse
  else .ok { given with options := given.options ++ [(rule.name, value)] }

def addPlace (level : Level) (text : String) (given : Given) : Except Halt Given :=
  if given.places.length < level.places then
    .ok { given with places := given.places ++ [text] }
  else .error .misuse

/-- Reads the words of a level: what was given, and the command that they end in with the words
after it. -/
def read (level : Level) (given : Given) :
    List String → Except Halt (Given × Option (String × List String))
  | [] => .ok (given, none)
  | word :: rest =>
    match Word.ofText word with
    | .escape => do
      let given ← rest.foldlM (fun given text => level.addPlace text given) given
      .ok (given, none)
    | .short letter =>
      match level.options.find? (·.letter == some letter) with
      | some { arity := .stop halt, .. } => .error halt
      | _ => .error .misuse
    | .plain text =>
      if level.commands.contains text then .ok (given, some (text, rest))
      else do level.read (← level.addPlace text given) rest
    | .long name value =>
      match level.option? name with
      | none => .error .misuse
      | some rule =>
        match rule.arity, value with
        | .stop halt, none => .error halt
        | .stop _, some _ | .flag, some _ => .error .misuse
        | .flag, none => do level.read (← addOption rule "" given) rest
        | _, some value => do level.read (← addOption rule value given) rest
        | _, none =>
          match rest with
          | [] => .error .misuse
          | value :: rest =>
            match Word.ofText value with
            | .plain value => do level.read (← addOption rule value given) rest
            | _ => .error .misuse

end Level

/-! ### The program's own words -/

/-- A natural number of at most 64 bits, with or without a plus. -/
def natural? (s : String) : Option Nat :=
  let digits := match s.toList with
    | '+' :: rest => rest
    | cs => cs
  if digits.isEmpty || !digits.all Text.isDigit then none
  else some (Text.natOfDigits digits) |>.filter (· < pow2 64)

def format? : String → Option Format
  | "yaml" => some .yaml
  | "json" => some .json
  | _ => none

/-- A field is written as its key and its value with an equals sign in between. -/
def field? (s : String) : Option (String × String) :=
  match Word.splitEquals s.toList with
  | (key, some value) => some (String.ofList key, String.ofList value)
  | (_, none) => none

def helpOption : OptionRule := { name := "help", letter := some 'h', arity := .stop .help }

def sharedOptions : List OptionRule :=
  [ { name := "db", accepts := fun s => !s.isEmpty },
    { name := "schema", accepts := fun s => !s.isEmpty },
    { name := "format", accepts := fun s => (format? s).isSome },
    helpOption ]

private def countOption (name : String) : OptionRule :=
  { name, accepts := fun s => (natural? s).isSome }

def commandLevels : List (String × List OptionRule × Nat) :=
  [ ("status", [], 0),
    ("get", [], 2),
    ("find", [{ name := "query" }, { name := "sort" }, countOption "skip", countOption "limit"], 1),
    ("insert",
      [ { name := "field", arity := .repeated, accepts := fun s => (field? s).isSome },
        { name := "json" } ], 1),
    ("update", [{ name := "update" }], 2),
    ("remove", [{ name := "dry-run", arity := .flag }], 2),
    ("export", [], 1),
    ("validate", [], 0) ]

def commandLevel? (name : String) : Option Level :=
  (commandLevels.lookup name).map fun (options, places) =>
    { options := sharedOptions ++ options, places }

def helpCommand : String := "help"

def programLevel : Level :=
  { options :=
      sharedOptions ++ [{ name := "version", letter := some 'V', arity := .stop .version }]
    commands := commandLevels.map Prod.fst ++ [helpCommand] }

namespace Given

def value? (given : Given) (name : String) : Option String := given.options.lookup name

def values (given : Given) (name : String) : List String :=
  given.options.filterMap fun (n, value) => if n == name then some value else none

end Given

/-- The command that a name and what was given with it stand for. A document is given either as a
whole or by fields. -/
def Command.ofGiven? (name : String) (given : Given) : Option Command :=
  match name, given.places with
  | "status", [] => some .status
  | "get", [model, id] => some (.get model id)
  | "find", [model] =>
    some (.find model (given.value? "query") (given.value? "sort")
      (((given.value? "skip").bind natural?).getD 0) ((given.value? "limit").bind natural?))
  | "insert", [model] =>
    match given.value? "json", (given.values "field").filterMap field? with
    | none, entries => some (.insert model (.fields entries))
    | some json, [] => some (.insert model (.whole json))
    | some _, _ :: _ => none
  | "update", [model, id] => (given.value? "update").map (.update model id)
  | "remove", [model, id] => some (.remove model id (given.value? "dry-run").isSome)
  | "export", [model] => some (.export model)
  | "validate", [] => some .validate
  | _, _ => none

/-- Help is asked for the program or for one of its commands. -/
private def helpHalt : List String → Halt
  | [] => .help
  | [name] => if programLevel.commands.contains name then .help else .misuse
  | _ => .misuse

def Invocation.ofWords (words : List String) : Except Halt Invocation := do
  let (outer, called) ← programLevel.read {} words
  let some (name, rest) := called | .error .misuse
  if name == helpCommand then .error (helpHalt rest)
  let some level := commandLevel? name | .error .misuse
  let (inner, _) ← level.read {} rest
  let some command := Command.ofGiven? name inner | .error .misuse
  let shared (name : String) : Option String := (inner.value? name).or (outer.value? name)
  .ok {
    db := (shared "db").getD "db.json", schema := shared "schema"
    format := ((shared "format").bind format?).getD .yaml, command }

end DocStore.CommandLine
