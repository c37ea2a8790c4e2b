import TokenInventory.CommandLine.Config
import TokenInventory.CommandLine.Form

/-!
# Invocations

What a command line asks for: a search for tokens with an action on those that are found, an update
of tokens from a document, or an import of tokens from a key container. The path of the
configuration, the path of the store and the filter of log lines can be given for every command; the
innermost one counts.
-/

namespace TokenInventory.CommandLine

/-! ## Values of options -/

/-- A choice between yes and no. -/
def flagOfText (s : String) : Except String Bool :=
  let word := Text.lowered s
  if ["true", "1", "yes"].contains word then .ok true
  else if ["false", "0", "no"].contains word then .ok false
  else .error ("expected true or false, got '" ++ word ++ "'")

/-- A number of tokens, at least one and less than `2 ^ 64`. -/
def chunkSizeOfText? (s : String) : Option ChunkSize :=
  ((Text.readUnsigned s.toList).filter (· < 0x10000000000000000)).bind chunkSize?

/-! ## The shape of the command line -/

/-- An option that takes any text. -/
def textOption (name : String) : OptionForm where
  name := name

/-- An option that takes a path. -/
def pathOption (name : String) : OptionForm where
  name := name
  accepts := some fun s => s ≠ ""

/-- An option that takes a choice between yes and no. -/
def flagOption (name : String) : OptionForm where
  name := name
  accepts := some fun s => (flagOfText s).isOk

/-- An option without a value. -/
def switch (name : String) : OptionForm where
  name := name
  accepts := none

/-- The option, which has to be given. -/
def OptionForm.required (option : OptionForm) : OptionForm :=
  { option with isRequired := true }

/-- The options of every command. -/
def globalOptions : List OptionForm :=
  [pathOption "config", pathOption "store", textOption "log-level"]

/-- A command with options of its own. -/
def commandForm (name : String) (aliases : List String) (options : List OptionForm)
    (commands : List CommandForm) : CommandForm :=
  .mk name aliases false (options ++ globalOptions) commands

/-- The actions on tokens that are found. -/
def actionForms : List CommandForm :=
  [commandForm "list" ["listuser"] [switch "sum", textOption "attributes"] [],
    commandForm "export" []
      [{ name := "format", accepts := some fun s => (ExportFormat.ofName s).isOk },
        switch "b32"] [],
    commandForm "set_realms" ["tokenrealms"] [(textOption "realms").required] [],
    commandForm "disable" [] [] [],
    commandForm "delete" [] [] [],
    commandForm "unassign" [] [] [],
    commandForm "set_description" [] [(textOption "description").required] [],
    commandForm "set_tokeninfo" [] [(textOption "tokeninfo").required] [],
    commandForm "delete_tokeninfo" [] [(textOption "tokeninfo").required] []]

/-- The options that tell which tokens are wanted. -/
def findOptions : List OptionForm :=
  [{ name := "chunksize", accepts := some fun s => (chunkSizeOfText? s).isSome },
    { name := "last_auth", aliases := ["last-auth"] },
    textOption "tokeninfo", textOption "tokeninfo-key", textOption "tokeninfo-value",
    textOption "tokeninfo-value-greater-than", textOption "tokeninfo-value-less-than",
    textOption "tokeninfo-value-after", textOption "tokeninfo-value-before",
    textOption "has-tokeninfo-key", textOption "has-not-tokeninfo-key",
    textOption "tokenattribute", textOption "tokentype", textOption "serial",
    textOption "description", flagOption "assigned", flagOption "active", flagOption "orphaned"]

/-- The search for tokens. -/
def findForm : CommandForm :=
  commandForm "find" [] findOptions [commandForm "action" [] [] actionForms]

/-- The update of tokens. -/
def updateForm : CommandForm :=
  commandForm "updatetokens" [] [(pathOption "yaml").required] []

/-- The import of tokens. -/
def loadForm : CommandForm :=
  commandForm "loadtokens" []
    [(pathOption "pskc").required, textOption "preshared-key-hex",
      { name := "validate-mac"
        accepts := some fun s => (KeyContainer.MacPolicy.ofName s).isOk }] []

/-- The whole command line. -/
def rootForm : CommandForm :=
  .mk "token-janitor" [] true globalOptions [findForm, updateForm, loadForm]

/-! ## What is asked for -/

/-- Which tokens are wanted and what is done with them, as the command line says it. -/
structure FindRequest where
  chunkSize : Option ChunkSize := none
  lastAuthentication : Option String := none
  infoExpression : Option String := none
  infoKey : Option String := none
  infoOptions : ValueOptions := {}
  hasKey : Option String := none
  lacksKey : Option String := none
  columnExpression : Option String := none
  tokenType : Option String := none
  serial : Option String := none
  description : Option String := none
  assigned : Option Bool := none
  active : Option Bool := none
  orphaned : Option Bool := none
  action : Except ParameterError Action

/-- A command. -/
inductive Command
  | find (request : FindRequest)
  | update (path : String)
  | load (path : String) (key : Option String) (policy : KeyContainer.MacPolicy)

/-- What a command line asks for. -/
structure Invocation where
  config : Option String
  store : Option String
  logLevel : Option String
  command : Command

namespace Layer

/-- Whether a switch was given. -/
def isGiven (layer : Layer) (option : String) : Bool :=
  (layer.value? option).isSome

/-- The value of an option that has to be given. -/
def value (layer : Layer) (option : String) : String :=
  (layer.value? option).getD ""

/-- A choice between yes and no. -/
def flag? (layer : Layer) (option : String) : Option Bool :=
  (layer.value? option).bind fun s => (flagOfText s).toOption

/-- The format of an export, a container if nothing is said. -/
def exportFormat (layer : Layer) : ExportFormat :=
  ((layer.value? "format").bind fun s => (ExportFormat.ofName s).toOption).getD .container

/-- The action that a layer asks for. -/
def action? (layer : Layer) : Option (Except ParameterError Action) :=
  match layer.command with
  | "list" =>
    some (.ok (.list (layer.isGiven "sum") (((layer.value? "attributes").map listItems).getD [])))
  | "export" => some (.ok (.exportAs layer.exportFormat (layer.isGiven "b32")))
  | "set_realms" => some (.ok (.change (.setRealms (listItems (layer.value "realms")))))
  | "disable" => some (.ok (.change .disable))
  | "delete" => some (.ok (.change .delete))
  | "unassign" => some (.ok (.change .unassign))
  | "set_description" => some (.ok (.change (.setDescription (layer.value "description"))))
  | "set_tokeninfo" =>
    some ((infoPairs (layer.value "tokeninfo")).map fun pairs => .change (.setInfo pairs))
  | "delete_tokeninfo" => some (.ok (.change (.deleteInfo (listItems (layer.value "tokeninfo")))))
  | _ => none

/-- What is searched for. -/
def findRequest (layer : Layer) (action : Except ParameterError Action) : FindRequest where
  chunkSize := (layer.value? "chunksize").bind chunkSizeOfText?
  lastAuthentication := layer.value? "last_auth"
  infoExpression := layer.value? "tokeninfo"
  infoKey := layer.value? "tokeninfo-key"
  infoOptions :=
    { value := layer.value? "tokeninfo-value"
      greaterThan := layer.value? "tokeninfo-value-greater-than"
      lessThan := layer.value? "tokeninfo-value-less-than"
      after := layer.value? "tokeninfo-value-after"
      before := layer.value? "tokeninfo-value-before" }
  hasKey := layer.value? "has-tokeninfo-key"
  lacksKey := layer.value? "has-not-tokeninfo-key"
  columnExpression := layer.value? "tokenattribute"
  tokenType := layer.value? "tokentype"
  serial := layer.value? "serial"
  description := layer.value? "description"
  assigned := layer.flag? "assigned"
  active := layer.flag? "active"
  orphaned := layer.flag? "orphaned"
  action := action

/-- The treatment of signatures, refusing if nothing is said. -/
def macPolicy (layer : Layer) : KeyContainer.MacPolicy :=
  ((layer.value? "validate-mac").bind fun s =>
    (KeyContainer.MacPolicy.ofName s).toOption).getD .refuse

end Layer

namespace Invocation

/-- The command that layers ask for. -/
def command? : List Layer → Option Command
  | [_, find, _, action] => action.action?.map fun action => .find (find.findRequest action)
  | [_, layer] =>
    if layer.command = "updatetokens" then some (.update (layer.value "yaml"))
    else some (.load (layer.value "pskc") (layer.value? "preshared-key-hex") layer.macPolicy)
  | _ => none

/-- The innermost value of an option. -/
def innermost? (layers : List Layer) (option : String) : Option String :=
  layers.reverse.findSome? fun layer => layer.value? option

/-- What the arguments of a command line ask for. -/
def ofArguments (arguments : List String) : Except UsageStop Invocation :=
  match readLayers arguments rootForm {} with
  | .error e => .error e
  | .ok layers =>
    match command? layers with
    | none => .error .refused
    | some command =>
      .ok { config := innermost? layers "config"
            store := innermost? layers "store"
            logLevel := innermost? layers "log-level"
            command }

end Invocation

end TokenInventory.CommandLine
