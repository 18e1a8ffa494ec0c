import HintedSql.Command.Basic
set_option relaxedAutoImplicit false
set_option autoImplicit false

/-!
# Command lines

A command line names a command and gives its input and options. An option that takes a value has it
in the next argument or after `=`. After `--` every argument is an input. The path of the settings
may be given before the command, after it, or in an environment variable.

The value of an option is looked at when the next option or input begins, or at the end; an argument
that is unknown is refused at once.

## Main definitions

* `HintedSql.Switch` — the options.
* `HintedSql.UsageError`, `HintedSql.UsageError.message`.
* `HintedSql.Invocation`, `HintedSql.Invocation.parse`.
-/

namespace HintedSql

/-- An option of the command line. -/
inductive Switch where
  | config
  | timeBlock
  | route
  | lane
  | bodyOnly
  | json
  | help
  | version
deriving DecidableEq, Repr

namespace Switch

/-- The name of an option. -/
def name : Switch → String
  | config => "config"
  | timeBlock => "time-block"
  | route => "route"
  | lane => "lane"
  | bodyOnly => "body-only"
  | json => "json"
  | help => "help"
  | version => "version"

/-- What the value of an option is called, if it takes one. -/
def valueName? : Switch → Option String
  | config => some "CONFIG"
  | timeBlock => some "TIME_BLOCK"
  | route => some "ROUTE"
  | lane => some "LANE"
  | _ => none

/-- How an option is shown. -/
def shown (s : Switch) : String :=
  match s.valueName? with
  | some value => "--" ++ s.name ++ " <" ++ value ++ ">"
  | none => "--" ++ s.name

/-- The letter that stands for an option. -/
def letter? : Switch → Option Char
  | help => some 'h'
  | version => some 'V'
  | _ => none

end Switch

/-- How an input is shown. -/
def inputShown : String :=
  "<INPUT>"

/-- The part of a command line before a command, or after one. -/
inductive CommandPart where
  | top
  | compile
  | script
deriving DecidableEq, Repr

namespace CommandPart

/-- The options of a part. -/
def switches : CommandPart → List Switch
  | top => [.config, .help, .version]
  | compile => [.config, .timeBlock, .route, .lane, .bodyOnly, .help]
  | script => [.config, .json, .help]

/-- The option with a given name. -/
def switch? (part : CommandPart) (name : String) : Option Switch :=
  part.switches.find? (·.name == name)

/-- The option with a given letter. -/
def letter? (part : CommandPart) (c : Char) : Option Switch :=
  part.switches.find? (·.letter? == some c)

end CommandPart

/-- What a word in the place of a command asks for. -/
inductive Verb where
  | command (part : CommandPart)
  | help
deriving DecidableEq, Repr

/-- What a word asks for. -/
def Verb.ofWord? : String → Option Verb
  | "compile" => some (.command .compile)
  | "legacy" => some (.command .script)
  | "help" => some .help
  | _ => none

/-- Why a command line leads to no command. -/
inductive UsageError where
  /-- Nothing is given at all. -/
  | nothingGiven
  | missingCommand
  | unknownCommand (word : String)
  | unknownArgument (arg : String)
  /-- An input, or the target that a lane belongs to, is missing. -/
  | missingArguments
  | missingValue (shown : String)
  | invalidTarget (value : String) (e : UnknownTarget)
  | unexpectedValue (value : String) (s : Switch)
  | repeated (s : Switch)
  | helpRequested
  | versionRequested
deriving DecidableEq, Repr

/-- What is said about a wrong command line. Requests for help or the version are no mistakes, and
where nothing is given the help is shown. -/
def UsageError.message : UsageError → Option String
  | nothingGiven | helpRequested | versionRequested => none
  | missingCommand => some "'rabridge' requires a subcommand but one was not provided"
  | unknownCommand word => some ("unrecognized subcommand '" ++ word ++ "'")
  | unknownArgument arg => some ("unexpected argument '" ++ arg ++ "' found")
  | missingArguments => some "the following required arguments were not provided:"
  | missingValue shown => some ("a value is required for '" ++ shown ++ "' but none was supplied")
  | invalidTarget value e =>
    some ("invalid value '" ++ value ++ "' for '" ++ Switch.route.shown ++ "': " ++ e.message)
  | unexpectedValue value s =>
    some ("unexpected value '" ++ value ++ "' for '" ++ s.shown
      ++ "' found; no more were expected")
  | repeated s => some ("the argument '" ++ s.shown ++ "' cannot be used multiple times")

/-- What has been given in one part of a command line. -/
structure Given where
  config : Option String := none
  timeBlock : Option String := none
  target : Option Target := none
  lane : Option String := none
  bodyOnly : Bool := false
  json : Bool := false
  input : Option String := none
deriving DecidableEq, Repr

/-- What has been read but not looked at. -/
inductive Pending where
  | nothing
  | option (s : Switch) (value : Option String)
  | input (value : String)
deriving DecidableEq, Repr

namespace Given

/-- A path, which may not be empty. -/
def path (shown value : String) : Except UsageError String :=
  if value.isEmpty then .error (.missingValue shown) else .ok value

/-- Whether an option has been given. -/
def has (g : Given) : Switch → Bool
  | .config => g.config.isSome
  | .timeBlock => g.timeBlock.isSome
  | .route => g.target.isSome
  | .lane => g.lane.isSome
  | .bodyOnly => g.bodyOnly
  | .json => g.json
  | .help | .version => false

/-- Set an option to a value. -/
def set (g : Given) (s : Switch) (value : String) : Except UsageError Given :=
  if g.has s then .error (.repeated s)
  else
    match s with
    | .config => do return { g with config := some (← path s.shown value) }
    | .timeBlock => .ok { g with timeBlock := some value }
    | .route =>
      match Target.parse value with
      | .ok target => .ok { g with target := some target }
      | .error e => .error (.invalidTarget value e)
    | .lane => .ok { g with lane := some value }
    | _ => .ok g

/-- Turn on an option that takes no value. -/
def turnOn (g : Given) (s : Switch) : Except UsageError Given :=
  if g.has s then .error (.repeated s)
  else
    match s with
    | .bodyOnly => .ok { g with bodyOnly := true }
    | .json => .ok { g with json := true }
    | .help => .error .helpRequested
    | .version => .error .versionRequested
    | _ => .ok g

/-- Look at what is pending. -/
def settle (g : Given) : Pending → Except UsageError Given
  | .nothing => .ok g
  | .option s none => .error (.missingValue s.shown)
  | .option s (some value) => g.set s value
  | .input value => do return { g with input := some (← path inputShown value) }

end Given

/-- How far a part of a command line has been read. -/
structure Reading where
  given : Given := {}
  pending : Pending := .nothing
  /-- Whether an input has been met. -/
  hasInput : Bool := false
  /-- Whether only inputs can follow. -/
  trailing : Bool := false
deriving DecidableEq, Repr

namespace Reading

/-- Whether the next argument is the value of an option. -/
def awaitsValue (r : Reading) : Bool :=
  match r.pending with
  | .option _ none => true
  | _ => false

/-- Look at what is pending. -/
def settle (r : Reading) : Except UsageError Reading := do
  let given ← r.given.settle r.pending
  return { r with given := given, pending := .nothing }

/-- Read an argument `--name` or `--name=value`. -/
def long (part : CommandPart) (r : Reading) (cs : List Char) : Except UsageError Reading :=
  let name := String.ofList (cs.takeWhile (· != '='))
  match part.switch? name, cs.dropWhile (· != '=') with
  | none, _ => .error (.unknownArgument ("--" ++ name))
  | some s, [] => do
    let r ← r.settle
    if s.valueName?.isSome then return { r with pending := .option s none }
    else return { r with given := ← r.given.turnOn s }
  | some s, _ :: value => do
    let value := String.ofList value
    if s.valueName?.isSome then
      let r ← r.settle
      return { r with given := ← r.given.set s value }
    else .error (.unexpectedValue value s)

/-- Read an argument of letters. -/
def letters (part : CommandPart) (r : Reading) : List Char → Except UsageError Reading
  | [] => .ok r
  | c :: cs =>
    match part.letter? c with
    | none => .error (.unknownArgument ("-" ++ String.singleton c))
    | some s => do
      let r ← r.settle
      let given ← r.given.turnOn s
      letters part { r with given := given } cs

/-- Read an argument that is no option: the value that an option awaits, or an input. -/
def word (part : CommandPart) (r : Reading) (arg : String) : Except UsageError Reading :=
  match part, r.pending, r.trailing with
  | _, .option s none, false => .ok { r with pending := .option s (some arg) }
  | .top, _, trailing =>
    if trailing && (Verb.ofWord? arg).isSome then .error (.unknownArgument arg)
    else .error (.unknownCommand arg)
  | _, _, _ =>
    if r.hasInput then .error (.unknownArgument arg)
    else do
      let r ← r.settle
      return { r with pending := .input arg, hasInput := true }

/-- Read one argument. -/
def next (part : CommandPart) (r : Reading) (arg : String) : Except UsageError Reading :=
  if r.trailing then r.word part arg
  else
    match arg.toList with
    | ['-', '-'] => .ok { r with trailing := true }
    | '-' :: '-' :: cs => r.long part cs
    | '-' :: c :: cs => r.letters part (c :: cs)
    | _ => r.word part arg

/-- Read all arguments after a command. -/
def all (part : CommandPart) (r : Reading) (args : List String) : Except UsageError Reading :=
  args.foldlM (fun r arg => r.next part arg) r

/-- Read the arguments before a command. The word that stands for the command and the arguments
after it are left. -/
def top (r : Reading) : List String → Except UsageError (Reading × Option (Verb × List String))
  | [] => .ok (r, none)
  | arg :: args =>
    match if r.trailing || r.awaitsValue then none else Verb.ofWord? arg with
    | some verb => .ok (r, some (verb, args))
    | none => do
      let r ← r.next .top arg
      r.top args

end Reading

/-- A command and the path of its settings, if one is given. -/
structure Invocation where
  command : Command
  config : Option String
deriving DecidableEq, Repr

namespace Invocation

/-- A part of the command line may take the path of the settings from the environment, if it does
not give it itself. -/
def checkVariable (g : Given) (configVariable : Option String) : Except UsageError Unit :=
  match g.config, configVariable with
  | none, some value => do
    let _ ← Given.path Switch.config.shown value
  | _, _ => .ok ()

/-- The command with what has been given. -/
def toCommand (part : CommandPart) (g : Given) : Except UsageError Command :=
  match part, g.input with
  | .script, some input => .ok (.script ⟨input, g.json⟩)
  | .compile, some input =>
    if g.lane.isSome && g.target.isNone then .error .missingArguments
    else .ok (.compile ⟨input, g.timeBlock, g.target, g.lane, g.bodyOnly⟩)
  | _, _ => .error .missingArguments

/-- The words after a request for help, which may name one command. -/
def help : List String → UsageError
  | [] => .helpRequested
  | name :: more =>
    match Verb.ofWord? name, more with
    | none, _ => .unknownCommand name
    | some _, [] => .helpRequested
    | some _, word :: _ => .unknownCommand word

/-- Read a command line. A path of settings after the command counts before one in front of it, and
both before the variable. -/
def parse (configVariable : Option String) (args : List String) : Except UsageError Invocation := do
  let (r, verb) ← Reading.top {} args
  match verb with
  | some (.help, words) => .error (help words)
  | some (.command part, rest) =>
    let inner ← Reading.all part {} rest
    let inner ← inner.settle
    checkVariable inner.given configVariable
    let command ← toCommand part inner.given
    let outer ← r.settle
    checkVariable outer.given configVariable
    return ⟨command, (inner.given.config.or outer.given.config).or configVariable⟩
  | none =>
    let outer ← r.settle
    checkVariable outer.given configVariable
    if outer.given.config.isNone && configVariable.isNone then .error .nothingGiven
    else .error .missingCommand

end Invocation

end HintedSql
