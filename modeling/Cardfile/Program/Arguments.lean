import Cardfile.Text.Pieces
import Cardfile.Text.Terminal
import Cardfile.Schema.Basic
import Cardfile.Command
/-!
# The program — its arguments

The program is called with settings, the name of a command, and what the
command takes. Arguments are read from the left. An option may wait for
its value; it is settled, and its value judged, only when the next option
begins or the arguments end, and the arguments of the command are judged
before the last option in front of it.
-/

namespace Cardfile

namespace Program

/-! ## Requests -/

/-- When the program may use colours. -/
inductive Color where
  | auto
  | always
  | never
  deriving DecidableEq, Repr

/-- The shells that words can be completed in. -/
inductive CompletionShell where
  | bash
  | elvish
  | fish
  | powershell
  | zsh
  deriving DecidableEq, Repr

/-- What the program is asked to do. -/
inductive Task where
  /-- To answer a query, given word by word. -/
  | query (words : List String) (format : Format)
  /-- To answer a query for one key, given word by word. -/
  | indexQuery (words : List String) (format : Format)
  /-- To run the shell. -/
  | shell
  /-- To write a script that completes words. -/
  | completion (shell : CompletionShell)
  /-- To tell its version. -/
  | version
  deriving DecidableEq, Repr

/-- A request: the settings and the task. -/
structure Request where
  /-- The path of the record file. -/
  path : String
  /-- The columns of the record file, as they are written. -/
  columns : String
  /-- When to use colours. -/
  color : Color
  /-- What to do. -/
  task : Task
  deriving DecidableEq, Repr

/-- Why arguments make no request. -/
inductive ArgumentFault where
  /-- There is no such command. -/
  | unknownCommand (name : String)
  /-- An argument that nothing takes. -/
  | unexpected (argument : String)
  /-- A value that the option does not take. -/
  | invalidValue (value option : String)
  /-- An option without its value. -/
  | missingValue (option : String)
  /-- A value for a flag. -/
  | extraValue (value flag : String)
  /-- An option that is given twice. -/
  | repeated (option : String)
  /-- A command without what it takes. -/
  | missingArguments
  /-- Settings without a command. -/
  | noCommand
  deriving DecidableEq, Repr

/-- The name of the program. -/
def programName : String := "tabquery"

/-- An argument as a message shows it. -/
def quotedArgument (argument : String) : String :=
  "'" ++ Text.Terminal.shown argument ++ "'"

/-- The fault in words. -/
def ArgumentFault.message : ArgumentFault → String
  | .unknownCommand name => "unrecognized subcommand " ++ quotedArgument name
  | .unexpected argument => "unexpected argument " ++ quotedArgument argument ++ " found"
  | .invalidValue value option =>
    "invalid value " ++ quotedArgument value ++ " for " ++ quotedArgument option
  | .missingValue option =>
    "a value is required for " ++ quotedArgument option ++ " but none was supplied"
  | .extraValue value flag =>
    "unexpected value " ++ quotedArgument value ++ " for " ++ quotedArgument flag
      ++ " found; no more were expected"
  | .repeated option =>
    "the argument " ++ quotedArgument option ++ " cannot be used multiple times"
  | .missingArguments => "the following required arguments were not provided:"
  | .noCommand =>
    quotedArgument programName ++ " requires a subcommand but one was not provided"

/-- The first line of a text, without white space at either end. -/
def firstLine (text : String) : String :=
  String.ofList (Text.trim (text.toList.takeWhile (· != '\n')))

/-- The fault as it is told to the user, on one line even if an argument
takes several. -/
def ArgumentFault.report (f : ArgumentFault) : Report :=
  { kind := .usage, message := some (firstLine f.message), hint := some "Try `tabquery --help`." }

/-- Why arguments are not read to their end. -/
inductive Halt where
  /-- Help is asked for, or given for want of any argument. -/
  | help (asked : Bool)
  /-- The version is asked for. -/
  | version
  /-- The arguments make no request. -/
  | fault (fault : ArgumentFault)
  deriving DecidableEq, Repr

/-! ## The shape of an argument -/

/-- What an argument looks like. -/
inductive Shape where
  /-- Two hyphens: everything after them is a value. -/
  | escape
  /-- A name after two hyphens, with what follows an equals sign. -/
  | long (name : String) (value : Option String)
  /-- A letter after one hyphen. -/
  | short (letter : Char)
  /-- Anything else. -/
  | value
  deriving DecidableEq, Repr

/-- What the argument looks like. -/
def shapeOf (argument : String) : Shape :=
  match argument.toList with
  | ['-', '-'] => .escape
  | '-' :: '-' :: rest =>
    match Text.cutAt (· == '=') rest with
    | none => .long (String.ofList rest) none
    | some (name, value) => .long (String.ofList name) (some (String.ofList value))
  | '-' :: letter :: _ => .short letter
  | _ => .value

/-- The argument with a third hyphen forgiven before `help` and
`version`. -/
def forgiven (argument : String) : String :=
  if argument = "---help" then "--help"
  else if argument = "---version" then "--version"
  else argument

/-- What to halt for once the options before are settled. -/
def settledFirst (settled : Except ArgumentFault Unit) (halt : Halt) : Halt :=
  match settled with
  | .ok _ => halt
  | .error f => .fault f

/-- What to halt for at a long flag that asks for help or the version, or
that nothing takes. -/
def longHalt (hasVersion : Bool) (settled : Except ArgumentFault Unit) (name : String)
    (value : Option String) : Halt :=
  let halt? : Option Halt :=
    if name = "help" then some (.help true)
    else if name = "version" && hasVersion then some .version
    else none
  match halt?, value with
  | none, _ => .fault (.unexpected ("--" ++ name))
  | some _, some value => .fault (.extraValue value ("--" ++ name))
  | some halt, none => settledFirst settled halt

/-- What to halt for at a short flag. -/
def shortHalt (hasVersion : Bool) (settled : Except ArgumentFault Unit) (letter : Char) : Halt :=
  if letter = 'h' then settledFirst settled (.help true)
  else if letter = 'V' && hasVersion then settledFirst settled .version
  else .fault (.unexpected ("-" ++ letter.toString))

/-! ## Settings -/

/-- The settings of the program. -/
inductive Setting where
  /-- The path of the record file. -/
  | path
  /-- The columns of the record file. -/
  | columns
  /-- When to use colours. -/
  | color
  deriving DecidableEq, Repr

namespace Setting

/-- All settings. -/
def all : List Setting := [.path, .columns, .color]

/-- The option that gives the setting. -/
def option : Setting → String
  | .path => "db"
  | .columns => "columns"
  | .color => "color"

/-- The option as a message shows it. -/
def shown : Setting → String
  | .path => "--db <DB>"
  | .columns => "--columns <COLUMNS>"
  | .color => "--color <COLOR>"

/-- The environment variable that gives the setting where no option
does. -/
def environmentName? : Setting → Option String
  | .path => some "TABQUERY_DB"
  | .columns => some "TABQUERY_COLUMNS"
  | .color => none

/-- The setting of an option. -/
def ofOption? (name : String) : Option Setting := all.find? fun s => s.option == name

end Setting

/-- The choice of colours of a value. -/
def Color.ofValue? (value : String) : Option Color :=
  [("auto", Color.auto), ("always", Color.always), ("never", Color.never)].lookup value

/-- Judges the value of a setting. -/
def Setting.check (s : Setting) (value : String) : Except ArgumentFault Unit :=
  match s with
  | .columns => .ok ()
  | .path => if value = "" then .error (.missingValue s.shown) else .ok ()
  | .color =>
    if (Color.ofValue? value).isSome then .ok ()
    else if value = "" then .error (.missingValue s.shown)
    else .error (.invalidValue value s.shown)

/-- The settings read so far. -/
structure Settings where
  /-- The settings whose values are accepted. -/
  given : List (Setting × String) := []
  /-- The option read last, with its value if that was read too. -/
  pending : Option (Setting × Option String) := none
  deriving DecidableEq, Repr

namespace Settings

/-- The value of a setting. -/
def value? (g : Settings) (s : Setting) : Option String := g.given.lookup s

/-- The setting whose option waits for its value. -/
def waiting? (g : Settings) : Option Setting :=
  match g.pending with
  | some (s, none) => some s
  | _ => none

/-- The settings with the option read last among those accepted. -/
def settle (g : Settings) : Except ArgumentFault Settings :=
  match g.pending with
  | none => .ok g
  | some (s, none) => .error (.missingValue s.shown)
  | some (s, some value) =>
    if (g.value? s).isSome then .error (.repeated s.shown)
    else do
      s.check value
      return { given := g.given ++ [(s, value)] }

/-- The settings with another option, and its value if it is attached. -/
def begin (g : Settings) (s : Setting) (value : Option String) : Except ArgumentFault Settings := do
  let g ← g.settle
  let g := { g with pending := some (s, value) }
  match value with
  | none => return g
  | some _ => g.settle

/-- The settings with those that only the environment gives. -/
def withVariables (environment : String → Option String) (g : Settings) :
    List Setting → Except ArgumentFault Settings
  | [] => .ok g
  | s :: rest =>
    match g.value? s, s.environmentName?.bind environment with
    | none, some value => do
      s.check value
      ({ g with given := g.given ++ [(s, value)] } : Settings).withVariables environment rest
    | _, _ => g.withVariables environment rest

end Settings

/-! ## Commands -/

/-- The names of the commands. -/
inductive CommandName where
  | query
  | indexQuery
  | shell
  | completion
  | version
  | help
  deriving DecidableEq, Repr

/-- The command of a name. -/
def CommandName.ofName? (name : String) : Option CommandName :=
  [("query", CommandName.query), ("indexquery", .indexQuery), ("shell", .shell),
    ("completion", .completion), ("version", .version), ("help", .help)].lookup name

/-- After two hyphens there is no command, whatever follows. -/
def afterEscape (g : Settings) :
    List String → Except Halt (Settings × Option (CommandName × List String))
  | [] => .ok (g, none)
  | argument :: _ =>
    if (CommandName.ofName? argument).isSome then .error (.fault (.unexpected argument))
    else .error (.fault (.unknownCommand argument))

/-- Reads settings up to the name of a command, and leaves what follows
it. -/
def readSettings (g : Settings) :
    List String → Except Halt (Settings × Option (CommandName × List String))
  | [] => .ok (g, none)
  | argument :: rest =>
    match g.waiting?, CommandName.ofName? argument, shapeOf argument with
    | none, some name, _ => .ok (g, some (name, rest))
    | some s, _, .value => readSettings { g with pending := some (s, some argument) } rest
    | none, none, .value => .error (.fault (.unknownCommand argument))
    | _, _, .escape => afterEscape g rest
    | _, _, .short letter => .error (shortHalt true (g.settle.map fun _ => ()) letter)
    | _, _, .long name value =>
      match Setting.ofOption? name with
      | none => .error (longHalt true (g.settle.map fun _ => ()) name value)
      | some s => do
        let g ← (g.begin s value).mapError .fault
        readSettings g rest

/-- The words of a query, of which there must be one. -/
def requireWords (words : List String) (format : Format) : Except Halt (List String × Format) :=
  if words = [] then .error (.fault .missingArguments) else .ok (words, format)

/-- Reads the words of a query, and whether JSON is asked for. -/
def readWords (words : List String) (format : Format) :
    List String → Except Halt (List String × Format)
  | [] => requireWords words format
  | argument :: rest =>
    match shapeOf argument with
    | .escape => requireWords (words ++ rest) format
    | .value => readWords (words ++ [argument]) format rest
    | .short letter => .error (shortHalt false (.ok ()) letter)
    | .long name value =>
      if name = "json" then
        match value, format with
        | some value, _ => .error (.fault (.extraValue value "--json"))
        | none, .json => .error (.fault (.repeated "--json"))
        | none, .table => readWords words .json rest
      else .error (longHalt false (.ok ()) name value)

/-- Reads the arguments of a command that takes none. -/
def readNothing : List String → Except Halt Unit
  | [] => .ok ()
  | argument :: rest =>
    match shapeOf argument with
    | .escape =>
      match rest with
      | [] => .ok ()
      | argument :: _ => .error (.fault (.unexpected argument))
    | .value => .error (.fault (.unexpected argument))
    | .short letter => .error (shortHalt false (.ok ()) letter)
    | .long name value => .error (longHalt false (.ok ()) name value)

/-- The shell of a value. -/
def CompletionShell.ofValue (value : String) : Except ArgumentFault CompletionShell :=
  match [("bash", CompletionShell.bash), ("elvish", .elvish), ("fish", .fish),
      ("powershell", .powershell), ("zsh", .zsh)].lookup value with
  | some shell => .ok shell
  | none =>
    if value = "" then .error (.missingValue "<SHELL>")
    else .error (.invalidValue value "<SHELL>")

/-- The one shell that was named. -/
def requireShell : List String → Except Halt CompletionShell
  | [] => .error (.fault .missingArguments)
  | [value] => (CompletionShell.ofValue value).mapError .fault
  | _ :: extra :: _ => .error (.fault (.unexpected extra))

/-- Reads the shell to complete words in. -/
def readShell (named : List String) : List String → Except Halt CompletionShell
  | [] => requireShell named
  | argument :: rest =>
    let settled : Except ArgumentFault Unit :=
      match named with
      | [] => .ok ()
      | value :: _ => (CompletionShell.ofValue value).map fun _ => ()
    match shapeOf argument with
    | .escape => requireShell (named ++ rest)
    | .value => if named = [] then readShell [argument] rest
      else .error (.fault (.unexpected argument))
    | .short letter => .error (shortHalt false settled letter)
    | .long name value => .error (longHalt false settled name value)

/-- Reads the command that help is asked for. -/
def readHelp : List String → Halt
  | [] => .help true
  | name :: rest =>
    if (CommandName.ofName? name).isSome then
      match rest with
      | [] => .help true
      | extra :: _ => .fault (.unknownCommand extra)
    else .fault (.unknownCommand name)

/-- Reads what a command takes. -/
def readTask : CommandName → List String → Except Halt Task
  | .query, arguments => do
    let (words, format) ← readWords [] .table arguments
    return .query words format
  | .indexQuery, arguments => do
    let (words, format) ← readWords [] .table arguments
    return .indexQuery words format
  | .shell, arguments => do
    readNothing arguments
    return .shell
  | .completion, arguments => do
    let shell ← readShell [] arguments
    return .completion shell
  | .version, arguments => do
    readNothing arguments
    return .version
  | .help, arguments => .error (readHelp arguments)

/-- Where records are read from unless a path is set. -/
def defaultPath : String := "database.txt"

/-- The request that the settings and the task make. -/
def requestOf (g : Settings) (task : Task) : Request where
  path := (g.value? .path).getD defaultPath
  columns := (g.value? .columns).getD studentColumns
  color := ((g.value? .color).bind Color.ofValue?).getD .auto
  task := task

/-- Reads the arguments of the program, with the environment for the
settings they do not give. -/
def readRequest (environment : String → Option String) (arguments : List String) :
    Except Halt Request := do
  let (g, command) ← readSettings {} (arguments.map forgiven)
  let task ← command.mapM fun (name, rest) => readTask name rest
  let g ← (do (← g.settle).withVariables environment Setting.all).mapError .fault
  match task with
  | some task => return requestOf g task
  | none => if g.given = [] then throw (.help false) else throw (.fault .noCommand)

end Program

end Cardfile
