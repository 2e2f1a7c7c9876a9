import Stencil.Compiler
import Stencil.Config.Load

/-!
# Command line

`compile` compiles templates through the cache, `check` compiles one without it.
Options stand before the command, each at most once.
-/
namespace Stencil.CommandLine

inductive Command where
  | compile (templates : List String)
  | check (template : String)
  deriving DecidableEq

structure Options where
  force : Bool := false
  verbose : Bool := false
  cacheDir : Option String := none
  tagDir : Option String := none
  config : Option String := none
  deriving DecidableEq

/-- What was asked for. -/
inductive Invocation where
  | run (options : Options) (command : Command)
  | help
  | misused
  deriving DecidableEq

/-- A text that is read as an option unless it stands behind a double dash. -/
def looksLikeOption (argument : String) : Bool :=
  argument.toList.head? == some '-' && argument.length > 1

/-- Switches with one dash can stand together; the first one counts here. -/
def isHelp (argument : String) : Bool :=
  argument == "--help" || argument.toList.take 2 == ['-', 'h']

/-- The arguments behind a command, without the double dash. -/
def positional : List String → Except Invocation (List String)
  | [] => .ok []
  | "--" :: rest => .ok rest
  | argument :: rest =>
    if isHelp argument then .error .help
    else if looksLikeOption argument then .error .misused
    else (positional rest).map (argument :: ·)

def readCompile (options : Options) (arguments : List String) : Invocation :=
  match positional arguments with
  | .error invocation => invocation
  | .ok [] => .misused
  | .ok templates => .run options (.compile templates)

def readCheck (options : Options) (arguments : List String) : Invocation :=
  match positional arguments with
  | .error invocation => invocation
  | .ok [template] => .run options (.check template)
  | .ok _ => .misused

/-- Set the option of this name, unless it was set before or there is none. -/
def setValue? (options : Options) (name value : String) : Option Options :=
  match name with
  | "--cache-dir" =>
    if options.cacheDir.isSome then none else some { options with cacheDir := some value }
  | "--tag-dir" =>
    if options.tagDir.isSome then none else some { options with tagDir := some value }
  | "--config" =>
    if options.config.isSome then none else some { options with config := some value }
  | _ => none

def takesValue (name : String) : Bool := (setValue? {} name "").isSome

/-- An option with its value behind an equals sign. -/
def splitValue? (argument : String) : Option (String × String) :=
  (Text.splitAtFirst ['='] argument.toList).map fun (name, value) =>
    (String.ofList name, String.ofList value)

/-- Set a switch, unless it was set before or there is none. -/
def setSwitch? (options : Options) (argument : String) : Option Options :=
  if argument = "--force" ∧ !options.force then some { options with force := true }
  else if (argument = "--verbose" ∨ argument = "-v") ∧ !options.verbose then
    some { options with verbose := true }
  else none

/-- Whether help is asked for, be it behind other switches as in `-vh`. -/
def asksForHelp (argument : String) : Bool :=
  match argument.toList with
  | '-' :: rest => isHelp argument || (rest.dropWhile (· == 'v')).head? == some 'h'
  | _ => argument == "help"

/-- The arguments from here on, after some options. -/
def readFrom (options : Options) : List String → Invocation
  | [] => .misused
  | [argument] => if asksForHelp argument then .help else .misused
  | argument :: next :: rest =>
    if asksForHelp argument then .help
    else if argument = "compile" then readCompile options (next :: rest)
    else if argument = "check" then readCheck options (next :: rest)
    else if takesValue argument then
      if looksLikeOption next then .misused
      else
        match setValue? options argument next with
        | some options => readFrom options rest
        | none => .misused
    else
      match (setSwitch? options argument).or
          ((splitValue? argument).bind fun (name, value) => setValue? options name value) with
      | some options => readFrom options (next :: rest)
      | none => .misused

def read (arguments : List String) : Invocation := readFrom {} arguments

/-- The configuration that options and environment ask for. -/
def loadConfig (options : Options) : Job Config := do
  let config ← match options.config with
    | some path => Config.ofFile path
    | none => do
      match ← Environment.get? "REDLINE_CACHE_DIR" with
      | some _ => Config.ofEnvironment
      | none => pure {}
  return { config with
    cacheDir := options.cacheDir.getD config.cacheDir
    tagDir := options.tagDir.or config.tagDir
    cacheMode := if options.force then .force else config.cacheMode }

def printLine (line : String) : Job Unit := Job.perform (.print (line ++ "\n"))

def compileTemplate (compiler : Compiler) (template : String) : Job Unit := do
  if ← compiler.ensureCompiled template then printLine (template ++ ": compiled")
  else printLine (template ++ ": up to date")

def checkTemplate (compiler : Compiler) (template : String) : Job Unit := do
  let text ← Job.readText template
  let output ← Job.compile (compiler.compileText template text)
  printLine (template ++ ": ok, " ++ toString output.forms.length ++ " form(s)")

def perform (options : Options) (command : Command) : Job Unit := do
  let config ← loadConfig options
  let compiler ← Job.within .loadTags (Compiler.ofConfig config)
  match command with
  | .compile templates => templates.forM (compileTemplate compiler)
  | .check template => checkTemplate compiler template

def usage : String := String.join [
  "usage: [--force] [--cache-dir DIR] [--tag-dir DIR] [--config FILE] [-v|--verbose] COMMAND\n",
  "  compile TEMPLATE...   compile templates into the cache\n",
  "  check TEMPLATE        compile a template and report the first error\n"]

/-- Perform a command and give the exit code. Warnings are only shown on demand. -/
def runCommand (options : Options) (command : Command) : Program Nat := do
  match ← (perform options command).run with
  | .ok _ => return 0
  | .error failure =>
    Program.perform (.printError (failure.message ++ "\n"))
    return 1

def run (arguments : List String) : Program Nat :=
  match read arguments with
  | .run options command =>
    if options.verbose then runCommand options command else (runCommand options command).quiet
  | .help => do
    Program.perform (.print usage)
    return 0
  | .misused => do
    Program.perform (.printError usage)
    return 2

end Stencil.CommandLine
