import ConnectorConsole.Text.Blank

/-!
# Command-line grammar

A command line names a command, perhaps one of its subcommands, and gives
options and arguments on the way. Options are words that begin with two hyphens;
an option that takes a value finds it after an equals sign or in the next word.
Some options of a command may also be given after the names of its subcommands.

A value that stands in a word of its own is looked at only when the next option,
argument or the end is reached, and the values of a command only after its
subcommand has been read. This decides which of several faults is reported.
-/

namespace ConnectorConsole

/-- Why a command line is not carried out. Three of the reasons are requests
for information. -/
inductive UsageProblem where
  | helpWanted
  | versionWanted
  /-- Nothing was given where a subcommand is needed. -/
  | nothingGiven
  | missingSubcommand
  | unknownSubcommand
  | missingArgument
  | unknownArgument
  /-- A value that its option does not admit. -/
  | badValue
  /-- An option without the value that it needs, or with an empty one. -/
  | missingValue
  /-- A value for an option that takes none. -/
  | unwantedValue
  | repeatedOption
deriving DecidableEq, Repr

/-- An option of a command. -/
structure OptionSpec where
  /-- The name without the hyphens. -/
  name : String
  takesValue : Bool
  repeatable : Bool
  required : Bool
  /-- What is wrong with a value. -/
  complaint : String → Option UsageProblem

namespace OptionSpec

def flag (name : String) : OptionSpec :=
  ⟨name, false, false, false, fun _ => none⟩

def text (name : String) : OptionSpec :=
  ⟨name, true, false, false, fun _ => none⟩

def checked (name : String) (test : String → Bool) : OptionSpec :=
  ⟨name, true, false, false, fun value => if test value then none else some .badValue⟩

end OptionSpec

/-- A command: its options, those that also hold for its subcommands, its
arguments, and its subcommands. A command has arguments or subcommands. -/
inductive CommandSpec where
  | mk (name : String) (options shared : List OptionSpec) (arguments : List String)
      (subcommands : List CommandSpec)

namespace CommandSpec

def name : CommandSpec → String
  | .mk name _ _ _ _ => name

def options : CommandSpec → List OptionSpec
  | .mk _ options _ _ _ => options

/-- The options of a command that also hold for its subcommands. -/
def shared : CommandSpec → List OptionSpec
  | .mk _ _ shared _ _ => shared

/-- The names of the arguments of a command, all of which must be given. -/
def arguments : CommandSpec → List String
  | .mk _ _ _ arguments _ => arguments

def subcommands : CommandSpec → List CommandSpec
  | .mk _ _ _ _ subcommands => subcommands

def subcommand? (spec : CommandSpec) (word : String) : Option CommandSpec :=
  spec.subcommands.find? fun sub => sub.name == word

end CommandSpec

/-- What was given to one command: values under the names of options and
arguments, in order. -/
structure Given where
  command : String
  values : List (String × String)
deriving DecidableEq, Repr

/-- A value that is not looked at yet. -/
inductive PendingValue where
  | none
  /-- The option waits for its value. -/
  | awaiting (option : OptionSpec)
  | held (option : OptionSpec) (value : String)

/-- The reading of one command. -/
structure CommandReading where
  spec : CommandSpec
  /-- The options that hold from the commands above. -/
  inherited : List OptionSpec
  given : List (String × String)
  pending : PendingValue
  /-- Whether only arguments follow. -/
  argumentsOnly : Bool
  /-- The arguments still to come. -/
  expected : List String

namespace CommandReading

/-- The start of reading a command. -/
def start (spec : CommandSpec) (inherited : List OptionSpec) : CommandReading :=
  ⟨spec, inherited, [], .none, false, spec.arguments⟩

def option? (reading : CommandReading) (name : String) : Option OptionSpec :=
  (reading.spec.options ++ reading.spec.shared ++ reading.inherited).find? fun option =>
    option.name == name

def note (reading : CommandReading) (option : OptionSpec) (value : String) :
    Except UsageProblem CommandReading :=
  if !option.repeatable && reading.given.any (fun entry => entry.1 == option.name) then
    .error .repeatedOption
  else
    match option.complaint value with
    | some problem => .error problem
    | none => .ok { reading with given := reading.given ++ [(option.name, value)] }

def settle (reading : CommandReading) : Except UsageProblem CommandReading :=
  match reading.pending with
  | .none => .ok reading
  | .awaiting _ => .error .missingValue
  | .held option value => note { reading with pending := .none } option value

def awaits (reading : CommandReading) : Option OptionSpec :=
  match reading.pending with
  | .awaiting option => some option
  | _ => none

/-- Read an option whose name and attached value are given. -/
def readOption (reading : CommandReading) (name : String) (attached : Option String) :
    Except UsageProblem CommandReading := do
  if name = "help" ∨ name = "version" then
    if attached.isSome then throw .unwantedValue
    discard reading.settle
    throw (if name = "help" then .helpWanted else .versionWanted)
  match reading.option? name, attached with
  | none, _ => throw .unknownArgument
  | some option, some value =>
    if option.takesValue then (← reading.settle).note option value else throw .unwantedValue
  | some option, none =>
    let reading ← reading.settle
    if option.takesValue then return { reading with pending := .awaiting option }
    else reading.note option "true"

def readArgument (reading : CommandReading) (word : String) :
    Except UsageProblem CommandReading := do
  match reading.expected with
  | name :: expected =>
    let reading ← reading.settle
    return { reading with given := reading.given ++ [(name, word)], expected }
  | [] =>
    if reading.spec.subcommands.isEmpty then throw .unknownArgument
    else if reading.argumentsOnly && (reading.spec.subcommand? word).isSome then
      throw .unknownArgument
    else if reading.argumentsOnly && word = "help" then throw .unknownArgument
    else throw .unknownSubcommand

/-- What a word is, going by its hyphens. -/
inductive Shape where
  | separator
  | long (name : String) (attached : Option String)
  | short (letter : Char)
  | plain
deriving DecidableEq, Repr

/-- The shape of a word. A single hyphen is a plain word. -/
def shape (word : String) : Shape :=
  match word.toList with
  | ['-', '-'] => .separator
  | '-' :: '-' :: rest =>
    match Text.cut '=' rest with
    | some (name, value) => .long (String.ofList name) (some (String.ofList value))
    | none => .long (String.ofList rest) none
  | '-' :: letter :: _ => .short letter
  | _ => .plain

def readWord (reading : CommandReading) (word : String) : Except UsageProblem CommandReading :=
  if reading.argumentsOnly then reading.readArgument word
  else
    match shape word with
    | .separator => .ok { reading with argumentsOnly := true }
    | .long name attached => reading.readOption name attached
    | .short 'h' => reading.readOption "help" none
    | .short 'V' => reading.readOption "version" none
    | .short _ => .error .unknownArgument
    | .plain =>
      match reading.awaits with
      | some option => .ok { reading with pending := .held option word }
      | none => reading.readArgument word

def admitsSubcommand (reading : CommandReading) : Bool :=
  !reading.argumentsOnly && reading.awaits.isNone && !reading.spec.subcommands.isEmpty

/-- The end of a command that is the last on the line. -/
def finish (reading : CommandReading) : Except UsageProblem Given := do
  let reading ← reading.settle
  if !reading.spec.subcommands.isEmpty then
    throw (if reading.given.isEmpty then .nothingGiven else .missingSubcommand)
  let missing := reading.spec.options.any fun option =>
    option.required && !reading.given.any fun entry => entry.1 == option.name
  if missing || !reading.expected.isEmpty then throw .missingArgument
  return ⟨reading.spec.name, reading.given⟩

/-- The outcome of asking for help on a command under a path of names. -/
def helpOn (spec : CommandSpec) : List String → UsageProblem
  | [] => .helpWanted
  | word :: rest =>
    match spec.subcommand? word with
    | some sub => helpOn sub rest
    | none =>
      if word = "help" ∧ !spec.subcommands.isEmpty ∧ rest.isEmpty then .helpWanted
      else .unknownSubcommand

/-- Read the words of a command and of its subcommands. The answer holds what
was given to each command on the way. -/
def run (reading : CommandReading) : List String → Except UsageProblem (List Given)
  | [] => do return [← reading.finish]
  | word :: rest =>
    if reading.admitsSubcommand then
      match reading.spec.subcommand? word with
      | some sub => do
        let below ← run (start sub (reading.spec.shared ++ reading.inherited)) rest
        let reading ← reading.settle
        return ⟨reading.spec.name, reading.given⟩ :: below
      | none =>
        if word = "help" then .error (helpOn reading.spec rest)
        else reading.readWord word >>= fun next => run next rest
    else reading.readWord word >>= fun next => run next rest

end CommandReading

/-- What a command line gives to a command and its subcommands. -/
def CommandSpec.read (spec : CommandSpec) (words : List String) :
    Except UsageProblem (List Given) :=
  (CommandReading.start spec []).run words

namespace Given

/-- The value under a name that was given to a command on the way; the deepest
command counts. -/
def find? (path : List Given) (name : String) : Option String :=
  path.reverse.findSome? fun given => given.values.lookup name

/-- All values under a name that were given to the last command, in order. -/
def all (path : List Given) (name : String) : List String :=
  match path.getLast? with
  | some given => (given.values.filter fun entry => entry.1 == name).map Prod.snd
  | none => []

def has (path : List Given) (name : String) : Bool :=
  (find? path name).isSome

end Given

end ConnectorConsole
