import TokenInventory.Text.Basic

/-!
# Command lines

The shape of a command line: a command has options and perhaps commands below it, one of which then
has to follow. Each command reads its own options up to the name of the next command; the layers of
values that are read this way are listed from the outermost command to the innermost one.

An option is written `--name value` or `--name=value`, and at most once for a command. A separate
value cannot begin with a dash, unless it is nothing but a dash. A value is checked when the next
option or the end of the command is read, so what an inner command makes of the line comes before
what the last option before it makes of its value.
-/

namespace TokenInventory.CommandLine

/-- Why a command line is not carried out. -/
inductive UsageStop
  /-- Help or the version was asked for. -/
  | informed
  /-- The command line is not well-formed. -/
  | refused
  deriving DecidableEq, Repr

/-- The exit code of a program that is not carried out. -/
def UsageStop.exitCode : UsageStop → Nat
  | informed => 0
  | refused => 2

/-- An option of a command. -/
structure OptionForm where
  name : String
  aliases : List String := []
  /-- The values that the option takes; `none` for an option without a value. -/
  accepts : Option (String → Bool) := some fun _ => true
  isRequired : Bool := false

/-- Whether an option has a name. -/
def OptionForm.isNamed (option : OptionForm) (name : String) : Bool :=
  option.name == name || option.aliases.contains name

/-- A command with its options and the commands below it. -/
inductive CommandForm
  | mk (name : String) (aliases : List String) (hasVersion : Bool) (options : List OptionForm)
      (commands : List CommandForm)

namespace CommandForm

/-- The name of a command. -/
def name : CommandForm → String
  | mk name _ _ _ _ => name

/-- Whether a command has a name. -/
def isNamed (s : String) : CommandForm → Bool
  | mk name aliases _ _ _ => name == s || aliases.contains s

/-- Whether the version can be asked for. -/
def hasVersion : CommandForm → Bool
  | mk _ _ hasVersion _ _ => hasVersion

/-- The options of a command. -/
def options : CommandForm → List OptionForm
  | mk _ _ _ options _ => options

/-- The commands below a command. -/
def commands : CommandForm → List CommandForm
  | mk _ _ _ _ commands => commands

/-- The option with a name. -/
def option? (form : CommandForm) (name : String) : Option OptionForm :=
  form.options.find? (·.isNamed name)

/-- The command with a name below a command. -/
def command? (form : CommandForm) (name : String) : Option CommandForm :=
  form.commands.find? (·.isNamed name)

/-- Whether the command asks for help about others. -/
def isHelp (form : CommandForm) (name : String) : Bool :=
  name == "help" && !form.commands.isEmpty

/-- Whether there is a command at the end of a path, to give help about. -/
def hasHelpFor : List String → CommandForm → Bool
  | [], _ => true
  | s :: path, form =>
    if form.isHelp s then path.isEmpty
    else
      match form.command? s with
      | some inner => hasHelpFor path inner
      | none => false

end CommandForm

/-- The options that were given for a command, by their names. -/
structure Layer where
  command : String
  values : List (String × String)

/-- The value of an option, if it was given. -/
def Layer.value? (layer : Layer) (option : String) : Option String :=
  layer.values.lookup option

/-- The reading of the options of a command. -/
structure LayerReader where
  values : List (String × String) := []
  /-- The last option and its value, not yet checked. -/
  pending : Option (OptionForm × Option String) := none

namespace LayerReader

/-- Whether the value of an option has to follow. -/
def isAwaiting (r : LayerReader) : Bool :=
  r.pending.any fun p => p.2.isNone

/-- Adds an option unless it was given before. -/
def add (r : LayerReader) (option : OptionForm) (value : String) : Except UsageStop LayerReader :=
  if (r.values.lookup option.name).isSome then .error .refused
  else if option.accepts.all fun accepts => accepts value then
    .ok { values := r.values ++ [(option.name, value)] }
  else .error .refused

/-- Checks the last option. -/
def settle (r : LayerReader) : Except UsageStop LayerReader :=
  match r.pending with
  | none => .ok r
  | some (_, none) => .error .refused
  | some (option, some value) => r.add option value

/-- Stops in order to inform, once the last option has been checked. -/
def inform (r : LayerReader) : Except UsageStop LayerReader :=
  match r.settle with
  | .ok _ => .error .informed
  | .error e => .error e

/-- Reads an option with a long name. -/
def long (form : CommandForm) (r : LayerReader) (name : String) (value : Option String) :
    Except UsageStop LayerReader :=
  match form.option? name, value with
  | some option, some value =>
    if option.accepts.isNone then .error .refused
    else
      match r.settle with
      | .ok r => r.add option value
      | .error e => .error e
  | some option, none =>
    match r.settle with
    | .ok r =>
      if option.accepts.isNone then r.add option ""
      else .ok { r with pending := some (option, none) }
    | .error e => .error e
  | none, none =>
    if name = "help" || (name = "version" && form.hasVersion) then r.inform else .error .refused
  | none, some _ => .error .refused

/-- Reads an argument that begins with a dash; `none` if it is no option. -/
def option? (form : CommandForm) (r : LayerReader) (argument : String) :
    Option (Except UsageStop LayerReader) :=
  match argument.toList with
  | '-' :: '-' :: c :: s =>
    match Text.splitFirst? '=' (c :: s) with
    | some (name, value) => some (r.long form (String.ofList name) (some (String.ofList value)))
    | none => some (r.long form (String.ofList (c :: s)) none)
  | '-' :: c :: _ =>
    if c = 'h' || (c = 'V' && form.hasVersion) then some r.inform else some (.error .refused)
  | _ => none

/-- Completes the layer of a command. -/
def complete (form : CommandForm) (r : LayerReader) : Except UsageStop Layer :=
  match r.settle with
  | .error e => .error e
  | .ok r =>
    if form.options.all fun o => !o.isRequired || (r.values.lookup o.name).isSome then
      .ok { command := form.name, values := r.values }
    else .error .refused

/-- Completes the layer of a command that no other one follows. -/
def completeLast (form : CommandForm) (r : LayerReader) : Except UsageStop (List Layer) :=
  if form.commands.isEmpty then (r.complete form).map fun layer => [layer] else .error .refused

end LayerReader

/-- Reads the layers of a command line. Two dashes end the options, and nothing can follow them. -/
def readLayers : List String → CommandForm → LayerReader → Except UsageStop (List Layer)
  | [], form, r => r.completeLast form
  | argument :: arguments, form, r =>
    let inner := if r.isAwaiting then none else form.command? argument
    if !r.isAwaiting && form.isHelp argument then
      .error (if form.hasHelpFor arguments then .informed else .refused)
    else
      match inner with
      | some inner =>
        match readLayers arguments inner {} with
        | .error e => .error e
        | .ok layers => (r.complete form).map fun layer => layer :: layers
      | none =>
        if argument = "--" then
          if arguments.isEmpty then r.completeLast form else .error .refused
        else
          match r.option? form argument with
          | some (.error e) => .error e
          | some (.ok r) => readLayers arguments form r
          | none =>
            match r.pending with
            | some (option, none) =>
              readLayers arguments form { r with pending := some (option, some argument) }
            | _ => .error .refused

end TokenInventory.CommandLine
