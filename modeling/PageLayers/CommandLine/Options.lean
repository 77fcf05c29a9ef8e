/-! Command lines: which options and arguments a command takes, reading them, and the text that
tells about them. -/

namespace PageLayers.CommandLine

/-- An option without a name for its value is a flag. -/
structure OptionSpec where
  short : Option Char
  long : String
  valueName : Option String
  help : String
  /-- Whether it may stand more than once. -/
  repeats : Bool
  isRequired : Bool
  /-- Whether its value is a path, which is never empty. -/
  isPath : Bool

namespace OptionSpec

def path (short : Option Char) (long valueName help : String) : OptionSpec :=
  ⟨short, long, some valueName, help, false, false, true⟩

def text (long valueName help : String) : OptionSpec :=
  ⟨none, long, some valueName, help, false, false, false⟩

def required (long valueName help : String) : OptionSpec :=
  { text long valueName help with isRequired := true }

def repeated (long valueName help : String) : OptionSpec :=
  { text long valueName help with repeats := true }

def flag (short : Char) (long help : String) : OptionSpec :=
  ⟨some short, long, none, help, false, false, false⟩

/-- The option with its value as it is written out. -/
def usage (o : OptionSpec) : String :=
  "--" ++ o.long ++ (match o.valueName with
    | some name => s!" <{name}>"
    | none => "")

/-- The same with the short form before it. -/
def label (o : OptionSpec) : String :=
  (match o.short with
    | some c => s!"-{c}, "
    | none => "    ") ++ o.usage

end OptionSpec

/-- The one argument that a command may take besides its options. -/
structure ArgumentSpec where
  label : String
  help : String

structure CommandSpec where
  name : String
  about : String
  argument : Option ArgumentSpec
  options : List OptionSpec

/-- The values of options by their long names, flags with an empty value, and the arguments. -/
structure Parsed where
  values : List (String × String)
  arguments : List String

namespace Parsed

def empty : Parsed := ⟨[], []⟩

def value? (p : Parsed) (long : String) : Option String := p.values.lookup long

def all (p : Parsed) (long : String) : List String :=
  (p.values.filter (·.1 = long)).map (·.2)

end Parsed

/-- Why reading ends early: the user asks for help or for the version, or does not keep to the
usage. -/
inductive Stop where
  | help
  | version
  | misuse
  deriving DecidableEq

def helpOption : OptionSpec := .flag 'h' "help" "Print help"

def versionOption : OptionSpec := .flag 'V' "version" "Print version"

/-- Takes in the value of an option. -/
def give (o : OptionSpec) (value : String) (p : Parsed) : Except Stop Parsed :=
  if o.long = helpOption.long then .error .help
  else if o.long = versionOption.long then .error .version
  else if o.isPath ∧ value.isEmpty then .error .misuse
  else if !o.repeats ∧ (p.value? o.long).isSome then .error .misuse
  else .ok { p with values := p.values ++ [(o.long, value)] }

/-- What starts with a dash is an option, a dash alone is not. -/
def isOption (arg : String) : Bool := arg.toList.head? = some '-' && arg ≠ "-"

/-- Takes in an option whose value, if it needs one, is the next argument. -/
def giveNext (o : OptionSpec) (rest : List String) (p : Parsed) :
    Except Stop (Parsed × List String) :=
  match o.valueName, rest with
  | none, rest => (give o "" p).map (·, rest)
  | some _, value :: rest =>
    if isOption value then .error .misuse else (give o value p).map (·, rest)
  | some _, [] => .error .misuse

/-- Reads letters behind one dash: flags, and last perhaps an option with its value. -/
def readShort (options : List OptionSpec) (rest : List String) :
    List Char → Parsed → Except Stop (Parsed × List String)
  | [], p => .ok (p, rest)
  | c :: letters, p =>
    match options.find? fun o => o.short = some c with
    | none => .error .misuse
    | some o =>
      if o.valueName.isNone then do readShort options rest letters (← give o "" p)
      else
        match letters with
        | [] => giveNext o rest p
        | '=' :: value => (give o (String.ofList value) p).map (·, rest)
        | value => (give o (String.ofList value) p).map (·, rest)

/-- Reads an option behind two dashes, whose value may follow an equals sign. -/
def readLong (options : List OptionSpec) (rest : List String) (text : List Char) (p : Parsed) :
    Except Stop (Parsed × List String) :=
  let long := String.ofList (text.takeWhile (· ≠ '='))
  match options.find? (·.long = long), text.dropWhile (· ≠ '=') with
  | none, _ => .error .misuse
  | some o, [] => giveNext o rest p
  | some o, _ :: value =>
    if o.valueName.isNone then .error .misuse
    else (give o (String.ofList value) p).map (·, rest)

def readOption (options : List OptionSpec) (arg : String) (rest : List String) (p : Parsed) :
    Except Stop (Parsed × List String) :=
  match arg.toList with
  | '-' :: '-' :: text => readLong options rest text p
  | _ :: letters => readShort options rest letters p
  | [] => .error .misuse

/-- Reads options up to the first argument, and gives that one with all that follows. -/
def readLeading (options : List OptionSpec) :
    Nat → List String → Parsed → Except Stop (Parsed × List String)
  | 0, _, _ => .error .misuse
  | _, [], p => .ok (p, [])
  | fuel + 1, arg :: rest, p =>
    if arg = "--" then .error .misuse
    else if isOption arg then do
      let (p, rest) ← readOption options arg rest p
      readLeading options fuel rest p
    else .ok (p, arg :: rest)

/-- Reads options and arguments in any order; behind two dashes alone all are arguments. -/
def readMixed (options : List OptionSpec) : Nat → List String → Parsed → Except Stop Parsed
  | 0, _, _ => .error .misuse
  | _, [], p => .ok p
  | fuel + 1, arg :: rest, p =>
    if arg = "--" then .ok { p with arguments := p.arguments ++ rest }
    else if isOption arg then do
      let (p, rest) ← readOption options arg rest p
      readMixed options fuel rest p
    else readMixed options fuel rest { p with arguments := p.arguments ++ [arg] }

namespace CommandSpec

def allOptions (c : CommandSpec) : List OptionSpec := c.options ++ [helpOption]

/-- All that is required is there, and there is one argument where the command takes one. -/
def isComplete (c : CommandSpec) (p : Parsed) : Bool :=
  (c.options.all fun o => !o.isRequired || (p.value? o.long).isSome) &&
    (if c.argument.isSome then p.arguments.length = 1 ∧ p.arguments ≠ [""] else p.arguments = [])

def read (c : CommandSpec) (args : List String) : Except Stop Parsed := do
  let p ← readMixed c.allOptions (args.length + 1) args .empty
  if c.isComplete p then return p else throw .misuse

end CommandSpec

/-! ### Help -/

def padded (width : Nat) (s : String) : String :=
  s ++ String.ofList (List.replicate (width - s.length) ' ')

/-- Lines of two columns, under a title. -/
def tableText (title : String) (rows : List (String × String)) : String :=
  let width := (rows.map fun r => r.1.length).foldl max 0
  title ++ ":\n" ++ String.join (rows.map fun r => "  " ++ padded width r.1 ++ "  " ++ r.2 ++ "\n")

def optionRows (options : List OptionSpec) : List (String × String) :=
  options.map fun o => (o.label, o.help)

/-- What a command is for and what it takes. -/
def CommandSpec.helpText (c : CommandSpec) (program : String) : String :=
  let required := c.options.filter OptionSpec.isRequired
  let words := [program, c.name] ++ (if c.options.isEmpty then [] else ["[OPTIONS]"]) ++
    required.map OptionSpec.usage ++ (c.argument.map ArgumentSpec.label).toList
  let sections := (c.argument.map fun a => tableText "Arguments" [(a.label, a.help)]).toList ++
    (if c.options.isEmpty then [] else [tableText "Options" (optionRows c.allOptions)])
  "\n".intercalate ((c.about ++ "\n") :: ("Usage: " ++ " ".intercalate words ++ "\n") :: sections)

end PageLayers.CommandLine
