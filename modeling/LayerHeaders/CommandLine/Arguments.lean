import LayerHeaders.Header.Kind

/-!
# Arguments

A command line names a task, with options before and after it. An option has a long form, some have a
short one of a letter, and letters may share a dash. The value of an option stands in the next argument or
behind an equals sign, that of a letter also right after it. Two dashes end the options.

* `Request.read?`: what a command line asks for, if it is well formed.
-/

namespace LayerHeaders.CommandLine

/-! ## Requests -/

/-- Where a registry comes from. -/
inductive Source where
  /-- A file. -/
  | file (path : String)
  /-- A directory of headers. -/
  | directory (path : String)
deriving DecidableEq, Repr

/-- What is to be written. -/
inductive Task where
  /-- A header of a registry. -/
  | header (kind : HeaderKind) (source : Source) (output : String)
  /-- The layer settings of a manifest. -/
  | settings (manifest output : String)
deriving DecidableEq, Repr

/-- What a command line asks for. -/
inductive Request where
  /-- The version of the program. -/
  | version
  /-- How the program is used. -/
  | help
  /-- A task, under a configuration file if there is one. -/
  | perform (task : Task) (configuration? : Option String)
deriving DecidableEq, Repr

/-- The name of a task. -/
inductive TaskName where
  /-- A header of a registry. -/
  | header (kind : HeaderKind)
  /-- The layer settings. -/
  | settings
deriving DecidableEq, Repr

/-- The task with a name. -/
def TaskName.ofString? (name : String) : Option TaskName :=
  match name with
  | "dispatch-tables" => some (.header .dispatchTables)
  | "icd" => some (.header .driverInterface)
  | "serialization" => some (.header .streamOperators)
  | "layer-settings" => some .settings
  | _ => none

/-! ## Options -/

/-- An option. -/
inductive Switch where
  /-- The configuration file. -/
  | configuration
  /-- The file of a registry. -/
  | registry
  /-- The directory of headers. -/
  | headers
  /-- The output. -/
  | output
  /-- More messages. -/
  | verbose
  /-- The version of the program. -/
  | version
  /-- How the program is used. -/
  | help
deriving DecidableEq, Repr

namespace Switch

/-- Whether an option has a value. -/
def hasValue : Switch → Bool
  | configuration | registry | headers | output => true
  | verbose | version | help => false

/-- Whether an option is known after the name of a task, or before it if there is none. -/
def isKnown (task? : Option TaskName) : Switch → Bool
  | configuration | verbose | help => true
  | version => task?.isNone
  | output => task?.isSome
  | registry | headers => task?.any (· != .settings)

/-- The option with a long form. -/
def ofName? (name : String) : Option Switch :=
  match name with
  | "config" => some configuration
  | "registry" => some registry
  | "headers-dir" => some headers
  | "output" => some output
  | "verbose" => some verbose
  | "version" => some version
  | "help" => some help
  | _ => none

/-- The option with a letter. -/
def ofLetter? (letter : Char) : Option Switch :=
  match letter with
  | 'o' => some output
  | 'v' => some verbose
  | 'V' => some version
  | 'h' => some help
  | _ => none

end Switch

/-! ## Reading -/

/-- What is given so far, before the name of a task or after it. -/
structure Given where
  /-- The options with values. -/
  values : List (Switch × String) := []
  /-- Whether more messages are asked for. -/
  verbose : Bool := false
  /-- The other arguments. -/
  operands : List String := []
deriving DecidableEq, Repr

/-- How the reading of arguments goes on. -/
inductive Progress where
  /-- With what is given. -/
  | given (g : Given)
  /-- Not at all: something else is asked for. -/
  | request (r : Request)

/-- The value of an option, unless it is empty or the option has one already. -/
def Given.withValue? (g : Given) (switch : Switch) (value : String) : Option Given :=
  if value = "" || (g.values.lookup switch).isSome then none
  else some { g with values := (switch, value) :: g.values }

/-- An option without value. -/
def Given.withFlag? (g : Given) (switch : Switch) : Option Progress :=
  match switch with
  | .version => some (.request .version)
  | .help => some (.request .help)
  | _ => if g.verbose then none else some (.given { g with verbose := true })

/-- Whether an argument is an option and not a value. -/
def isOption (arg : String) : Bool :=
  arg.toList.head? == some '-' && arg != "-"

/-- Reads letters that share a dash. If the last one takes its value from the next argument, its option
comes out. -/
def readLetters? (task? : Option TaskName) (g : Given) :
    List Char → Option (Progress × Option Switch)
  | [] => some (.given g, none)
  | letter :: rest => do
    let switch ← Switch.ofLetter? letter
    if !switch.isKnown task? then none
    if switch.hasValue then
      match rest with
      | [] => return (.given g, some switch)
      | '=' :: value => return (.given (← g.withValue? switch (String.ofList value)), none)
      | value => return (.given (← g.withValue? switch (String.ofList value)), none)
    else
      match ← g.withFlag? switch with
      | .request r => return (.request r, none)
      | .given g => readLetters? task? g rest

/-- Reads an option in its long form, after the dashes. If it takes its value from the next argument, it
comes out. -/
def readName? (task? : Option TaskName) (g : Given) (arg : List Char) :
    Option (Progress × Option Switch) := do
  let switch ← Switch.ofName? (String.ofList (arg.takeWhile (· != '=')))
  if !switch.isKnown task? then none
  match arg.dropWhile (· != '='), switch.hasValue with
  | [], true => return (.given g, some switch)
  | _ :: value, true => return (.given (← g.withValue? switch (String.ofList value)), none)
  | [], false => return (← g.withFlag? switch, none)
  | _ :: _, false => none

/-- Where the reading of arguments ends. -/
inductive Reached where
  /-- At their end. -/
  | ended (g : Given)
  /-- At the name of a task, before the arguments `rest`. -/
  | task (name : TaskName) (rest : List String) (g : Given)
  /-- Anywhere: something else is asked for. -/
  | request (r : Request)

/-- Reads arguments after the name of a task, or up to it if there is none yet. After two dashes no
argument is an option. -/
def readArguments? (task? : Option TaskName) (dashes : Bool) (g : Given) :
    List String → Option Reached
  | [] => some (.ended g)
  | arg :: rest =>
    let operand : Option Reached :=
      if arg = "" then none
      else readArguments? task? dashes { g with operands := g.operands ++ [arg] } rest
    if dashes then operand
    else if arg = "--" then readArguments? task? true g rest
    else if isOption arg then do
      let (progress, pending?) ←
        match arg.toList with
        | '-' :: '-' :: name => readName? task? g name
        | _ :: letters => readLetters? task? g letters
        | [] => none
      match progress, pending? with
      | .request r, _ => return .request r
      | .given g, none => readArguments? task? false g rest
      | .given g, some switch =>
        match rest with
        | [] => none
        | value :: rest =>
          if isOption value then none
          else do
            let g ← g.withValue? switch value
            readArguments? task? false g rest
    else if task?.isNone then
      match TaskName.ofString? arg, arg with
      | some name, _ => some (.task name rest g)
      | none, "help" =>
        match rest with
        | [] => some (.request .help)
        | [name] =>
          if name = "help" || (TaskName.ofString? name).isSome then some (.request .help) else none
        | _ => none
      | none, _ => none
    else operand

/-! ## Whole command lines -/

/-- The task with what is given after its name. A header has one source, layer settings have one
manifest, and both have an output. -/
def Given.task? (g : Given) : TaskName → Option Task
  | .header kind =>
    match g.values.lookup .registry, g.values.lookup .headers, g.values.lookup .output,
      g.operands with
    | some path, none, some output, [] => some (.header kind (.file path) output)
    | none, some path, some output, [] => some (.header kind (.directory path) output)
    | _, _, _, _ => none
  | .settings =>
    match g.values.lookup .output, g.operands with
    | some output, [manifest] => some (.settings manifest output)
    | _, _ => none

/-- The configuration file: the one that is given, or the one that the environment names. A name in the
environment that is needed is not empty. -/
def Given.configuration? (g : Given) (environment? : Option String) : Option (Option String) :=
  match g.values.lookup .configuration, environment? with
  | some path, _ => some (some path)
  | none, some "" => none
  | none, environment? => some environment?

/-- What a command line asks for, where the environment may name a configuration file. What is given
after the name of the task comes before what is given in front of it. -/
def Request.read? (environment? : Option String) (args : List String) : Option Request := do
  match ← readArguments? none false {} args with
  | .request r => return r
  | .ended _ => none
  | .task name rest before =>
    match ← readArguments? (some name) false {} rest with
    | .request r => return r
    | .task _ _ _ => none
    | .ended after =>
      let task ← after.task? name
      let outer? ← before.configuration? environment?
      let inner? ← after.configuration? environment?
      let given? := after.values.lookup .configuration
      return .perform task (if given?.isSome then inner? else outer?)

end LayerHeaders.CommandLine
