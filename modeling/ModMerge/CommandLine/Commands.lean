import ModMerge.CommandLine.Grammar
import ModMerge.Text.Numeral

/-!
# Commands

What the arguments of the program ask for. `Request.ofArguments` reads them; arguments that
make no sense are a `misuse`.
-/

namespace ModMerge.CommandLine

/-- What the user wants of a merge. -/
structure MergeOptions where
  mods : List String := []
  settingsPath : Option String := none
  modName : Option String := none
  displayName : Option String := none
  description : Option String := none
  modVersion : Option String := none
  icon : Option String := none
  outputDirectory : Option String := none
  report : Option String := none
  workers : Option Int := none
deriving Repr

/-- What the program can do. -/
inductive Command where
  /-- Merge mods into one. -/
  | merge (options : MergeOptions)
  /-- Show what mods define. -/
  | scan (mods : List String)
  /-- Show in which ids mods get into each other's way. -/
  | conflicts (mods : List String) (markdown : Bool)
  /-- Write a file with settings. -/
  | writeSettings (path : Option String)
deriving Repr

/-- What the arguments of the program ask for. -/
inductive Request where
  | run (command : Command)
  | help
  | version
  | misuse
deriving Repr

/-- The option that asks for help. -/
def helpForm {Key : Type} (key : Key) : OptionForm Key :=
  ⟨["-h", "--help"], key, false⟩

/-- The options that stand before a command. -/
inductive ProgramOption where
  | help
  | version

/-- The forms of the options that stand before a command. -/
def programForms : List (OptionForm ProgramOption) :=
  [helpForm .help, ⟨["--version"], .version, false⟩]

/-- The options of a merge. -/
inductive MergeOption where
  | help
  | settingsPath
  | modName
  | displayName
  | description
  | modVersion
  | icon
  | outputDirectory
  | report
  | workers
  /-- How much of the log is shown. -/
  | verbosity

/-- The forms of the options of a merge. -/
def mergeForms : List (OptionForm MergeOption) :=
  [helpForm .help,
    ⟨["-c", "--config"], .settingsPath, true⟩,
    ⟨["-n", "--name"], .modName, true⟩,
    ⟨["--display-name"], .displayName, true⟩,
    ⟨["--description"], .description, true⟩,
    ⟨["--mod-version"], .modVersion, true⟩,
    ⟨["--icon"], .icon, true⟩,
    ⟨["-o", "--output-dir"], .outputDirectory, true⟩,
    ⟨["--report"], .report, true⟩,
    ⟨["-j", "--workers"], .workers, true⟩,
    ⟨["-v", "--verbose"], .verbosity, false⟩,
    ⟨["-q", "--quiet"], .verbosity, false⟩]

/-- The options of the commands that show something. -/
inductive ShowOption where
  | help
  | markdown
  | verbosity

/-- The forms of the options of a scan. -/
def scanForms : List (OptionForm ShowOption) :=
  [helpForm .help, ⟨["-v", "--verbose"], .verbosity, false⟩]

/-- The forms of the options for showing conflicts. -/
def conflictForms : List (OptionForm ShowOption) :=
  ⟨["--markdown"], .markdown, false⟩ :: scanForms

/-- Take in what has been read of a command's arguments. A request for help, and a misuse,
hide all that comes later; an argument that nothing takes is a misuse only after that. -/
def takeItems {Key Options : Type}
    (take : Options → Item Key → Except Request Options) :
    Options → List (Item Key) → Except Request Options
  | options, [] => .ok options
  | _, .refused :: _ => .error .misuse
  | options, .unexpected :: rest =>
      match takeItems take options rest with
      | .error request => .error request
      | .ok _ => .error .misuse
  | options, item :: rest => do takeItems take (← take options item) rest

/-- Take in one item of a merge's arguments. -/
def MergeOptions.take (options : MergeOptions) :
    Item MergeOption → Except Request MergeOptions
  | .flag .help => .error .help
  | .value .settingsPath text => .ok { options with settingsPath := text }
  | .value .modName text => .ok { options with modName := text }
  | .value .displayName text => .ok { options with displayName := text }
  | .value .description text => .ok { options with description := text }
  | .value .modVersion text => .ok { options with modVersion := text }
  | .value .icon text => .ok { options with icon := text }
  | .value .outputDirectory text => .ok { options with outputDirectory := text }
  | .value .report text => .ok { options with report := text }
  | .value .workers text =>
      match Text.integerOfText text with
      | .ok count => .ok { options with workers := count }
      | .error _ => .error .misuse
  | .operands mods => .ok { options with mods }
  | _ => .ok options

/-- What the user wants to see. -/
structure ShowOptions where
  operands : List String := []
  markdown : Bool := false

/-- Take in one item of the arguments of a command that shows something. -/
def ShowOptions.take (options : ShowOptions) : Item ShowOption → Except Request ShowOptions
  | .flag .help => .error .help
  | .flag .markdown => .ok { options with markdown := true }
  | .operands operands => .ok { options with operands }
  | _ => .ok options

/-- Read the arguments of a command that shows something or writes settings. -/
def readShowOptions (forms : List (OptionForm ShowOption)) (operands : Operands)
    (arguments : List String) : Except Request ShowOptions :=
  takeItems ShowOptions.take {} (readArguments forms operands arguments)

/-- Mods that a command needs at least one of. -/
def someMods (mods : List String) : Except Request (List String) :=
  if mods.isEmpty then .error .misuse else .ok mods

namespace Command

/-- The command with a name and arguments. -/
def ofArguments (commandName : String) (arguments : List String) : Except Request Command := do
  match commandName with
  | "merge" => do
      let options ← takeItems MergeOptions.take {} (readArguments mergeForms .many arguments)
      return merge { options with mods := ← someMods options.mods }
  | "scan" => do
      let options ← readShowOptions scanForms .many arguments
      return scan (← someMods options.operands)
  | "conflicts" => do
      let options ← readShowOptions conflictForms .many arguments
      return conflicts (← someMods options.operands) options.markdown
  | "init-config" => do
      let options ← readShowOptions [helpForm .help] .atMostOne arguments
      return writeSettings options.operands.head?
  | _ => throw .misuse

end Command

/-- Take in one item of the program's arguments. -/
def takeCommand (command : Option Command) :
    Item ProgramOption → Except Request (Option Command)
  | .flag .help => .error .help
  | .flag .version => .error .version
  | .operands (commandName :: arguments) => some <$> Command.ofArguments commandName arguments
  | _ => .ok command

/-- What the arguments of the program ask for. Without arguments, that is help. -/
def Request.ofArguments (arguments : List String) : Request :=
  match takeItems takeCommand none (readArguments programForms .command arguments) with
  | .ok (some command) => .run command
  | .ok none => .help
  | .error request => request

end ModMerge.CommandLine
