import PageLayers.CommandLine.Options
import PageLayers.Registry.Request

/-! What the program can be called for: its commands, and reading a command line as one of them. -/

namespace PageLayers.CommandLine

def program : String := "pagestack-cli"

def about : String := "PageStack CLI - Layered Page Compiler"

structure DocumentArgs where
  document : String
  base : Option String
  deriving DecidableEq

structure RequestArgs where
  store : Option String
  context : RequestContext
  deriving DecidableEq

inductive Command where
  | validate (args : DocumentArgs)
  | compile (args : DocumentArgs)
  | publish (args : DocumentArgs) (store : Option String)
  | build (dir : String) (store : Option String)
  | layers (args : RequestArgs)
  | resolve (args : RequestArgs)
  | render (args : RequestArgs) (entitlements : OrderedSet String)
  deriving DecidableEq

/-- A command with the settings file to use. -/
structure Invocation where
  command : Command
  config : String
  deriving DecidableEq

/-! ### What the commands take -/

def topOptions : List OptionSpec :=
  [.path (some 'c') "config" "CONFIG" "Engine config (TOML) [default: pagestack.toml]",
   .flag 'v' "verbose" "Debug logging", helpOption, versionOption]

def documentArgument : ArgumentSpec := ⟨"<DOCUMENT>", "Document (JSON node tree)"⟩

def baseOption : OptionSpec :=
  .path (some 'b') "base" "BASE" "Blueprint document an overlay extends"

def storeOption : OptionSpec :=
  .path (some 's') "store" "STORE" "Store directory (defaults to [store] root)"

def requestOptions : List OptionSpec :=
  [storeOption, .required "module" "MODULE" "", .required "route" "ROUTE" "",
   .required "tenant" "TENANT" "", .repeated "role" "ROLES" "", .text "variant" "VARIANT" "",
   .text "locale" "LOCALE" ""]

def documentArgs (p : Parsed) : DocumentArgs := ⟨p.arguments.headD "", p.value? "base"⟩

def requestArgs (p : Parsed) : RequestArgs where
  store := p.value? "store"
  context :=
    { tenant := (p.value? "tenant").getD ""
      moduleName := (p.value? "module").getD ""
      route := (p.value? "route").getD ""
      roles := OrderedSet.ofList (p.all "role")
      variant := p.value? "variant"
      locale := p.value? "locale" }

/-- The commands in the order in which help lists them, each with how it is made from what is
read. -/
def commands : List (CommandSpec × (Parsed → Command)) :=
  [(⟨"validate", "Validate a document without compiling it", documentArgument, [baseOption]⟩,
      fun p => .validate (documentArgs p)),
   (⟨"compile", "Compile a document to an artifact", documentArgument, [baseOption]⟩,
      fun p => .compile (documentArgs p)),
   (⟨"publish", "Compile and publish a document", documentArgument, [baseOption, storeOption]⟩,
      fun p => .publish (documentArgs p) (p.value? "store")),
   (⟨"build", "Compile every document in a directory, optionally publishing them",
        some ⟨"<DIR>", "Directory of JSON documents"⟩,
        [.path (some 's') "store" "STORE" "Publish into this store directory after compiling"]⟩,
      fun p => .build (p.arguments.headD "") (p.value? "store")),
   (⟨"layers", "List the layers a request would resolve", none, requestOptions⟩,
      fun p => .layers (requestArgs p)),
   (⟨"resolve", "Resolve a request to a merged page", none, requestOptions⟩,
      fun p => .resolve (requestArgs p)),
   (⟨"render", "Resolve and evaluate a request (static data sources only)", none,
        requestOptions ++
          [.repeated "entitlement" "ENTITLEMENTS" "Entitlement flags held by the viewer"]⟩,
      fun p => .render (requestArgs p) (OrderedSet.ofList (p.all "entitlement")))]

/-- The command that tells about the others. -/
def helpCommand : CommandSpec :=
  ⟨"help", "Print this message or the help of the given subcommand(s)",
    some ⟨"[COMMAND]...", "Print help for the subcommand(s)"⟩, []⟩

def specs : List CommandSpec := commands.map (·.1) ++ [helpCommand]

def helpText : String :=
  "\n".intercalate [about ++ "\n", "Usage: " ++ program ++ " [OPTIONS] <COMMAND>\n",
    tableText "Commands" (specs.map fun c => (c.name, c.about)),
    tableText "Options" (optionRows topOptions)]

/-! ### Reading -/

/-- What a command line asks for: to run a command, or to print a text. -/
inductive Asked where
  | run (i : Invocation)
  | print (text : String)
  | misuse

def Asked.ofStop (help : String) : Stop → Asked
  | .help => print help
  | .version => print (program ++ " 1.0.0\n")
  | .misuse => misuse

/-- Help about the command that is named, or about all. -/
def askedHelp : List String → Asked
  | [] => .print helpText
  | [name] =>
    match specs.find? (·.name = name) with
    | some c => .print (c.helpText program)
    | none => .misuse
  | _ => .misuse

def readCommand (config : String) (name : String) (args : List String) : Asked :=
  match commands.find? (·.1.name = name) with
  | some (spec, make) =>
    match spec.read args with
    | .ok p => .run ⟨make p, config⟩
    | .error stop => .ofStop (spec.helpText program) stop
  | none => if name = helpCommand.name then askedHelp args else .misuse

/-- Options of the program stand before the command, those of a command behind its name. -/
def read (args : List String) : Asked :=
  match readLeading topOptions (args.length + 1) args .empty with
  | .error stop => .ofStop helpText stop
  | .ok (_, []) => .misuse
  | .ok (p, name :: rest) => readCommand ((p.value? "config").getD "pagestack.toml") name rest

end PageLayers.CommandLine
