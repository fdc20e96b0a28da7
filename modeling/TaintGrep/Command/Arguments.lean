import TaintGrep.Log.Event

/-!
The command line. Options stand before or after the command, each at most once on either side; a
value follows its option as the next argument, after `=`, or right after a short option. `--` ends
the options. The first thing wrong, or the first request for help or the version, decides.
-/

namespace TaintGrep.Command

inductive Stop where
  | usage
  | help
  | version
  deriving DecidableEq, Repr

inductive ValueKind where
  | flag
  | text
  | path
  | level
  deriving DecidableEq, Repr

structure Opt where
  name : String
  short : Option Char := none
  kind : ValueKind := .flag
  deriving DecidableEq, Repr

structure Given where
  options : List (String × String) := []
  operands : List String := []
  deriving DecidableEq, Repr

namespace Given

def value? (g : Given) (name : String) : Option String :=
  g.options.lookup name

def has (g : Given) (name : String) : Bool :=
  (g.value? name).isSome

end Given

def ValueKind.accepts : ValueKind → String → Bool
  | .path, s => s ≠ ""
  | .level, s => (Log.Level.ofName? s).isSome
  | _, _ => true

def give (g : Given) (o : Opt) (value : String) : Except Stop Given :=
  if o.name = "help" then .error .help
  else if o.name = "version" then .error .version
  else if g.has o.name ∨ ¬ o.kind.accepts value then .error .usage
  else .ok { g with options := g.options ++ [(o.name, value)] }

def optionLike : List Char → Bool
  | '-' :: _ :: _ => true
  | _ => false

/-- Short options in one argument. An option that still waits for its value comes last. -/
def readShorts (opts : List Opt) (g : Given) : List Char → Except Stop (Given × Option Opt)
  | [] => .ok (g, none)
  | c :: cs =>
    match opts.find? fun o => o.short = some c with
    | none => .error .usage
    | some o =>
      if o.kind = .flag then
        match give g o "" with
        | .error e => .error e
        | .ok g => readShorts opts g cs
      else
        match cs with
        | [] => .ok (g, some o)
        | '=' :: v => (give g o (String.ofList v)).map (·, none)
        | v => (give g o (String.ofList v)).map (·, none)

def readLong (opts : List Opt) (g : Given) (cs : List Char) : Except Stop (Given × Option Opt) :=
  match opts.find? fun o => o.name.toList = cs.takeWhile (· ≠ '=') with
  | none => .error .usage
  | some o =>
    match o.kind, cs.dropWhile (· ≠ '=') with
    | .flag, [] => (give g o "").map (·, none)
    | .flag, _ => .error .usage
    | _, [] => .ok (g, some o)
    | _, _ :: v => (give g o (String.ofList v)).map (·, none)

/-- Takes one argument as the value that an option waits for or as options; `none` if it is neither,
so an operand or the `--` that ends the options. -/
def readOption (opts : List Opt) (waiting : Option Opt) (g : Given) (arg : String) :
    Except Stop (Option (Given × Option Opt)) :=
  match waiting, arg.toList with
  | some o, cs =>
    if optionLike cs then .error .usage else (give g o arg).map fun g => some (g, none)
  | none, ['-', '-'] => .ok none
  | none, '-' :: '-' :: cs => (readLong opts g cs).map some
  | none, '-' :: c :: cs => (readShorts opts g (c :: cs)).map some
  | none, _ => .ok none

def readOptions (opts : List Opt) :
    Option Opt → Given → List String → Except Stop (Given × List String)
  | waiting, g, [] => if waiting.isSome then .error .usage else .ok (g, [])
  | waiting, g, arg :: rest =>
    match readOption opts waiting g arg with
    | .error e => .error e
    | .ok (some (g, waiting)) => readOptions opts waiting g rest
    | .ok none => .ok (g, arg :: rest)

def addOperands (limit : Nat) (g : Given) (args : List String) : Except Stop Given :=
  if g.operands.length + args.length ≤ limit ∧ "" ∉ args then
    .ok { g with operands := g.operands ++ args }
  else
    .error .usage

def readCommand (opts : List Opt) (limit : Nat) :
    Option Opt → Given → List String → Except Stop Given
  | waiting, g, [] => if waiting.isSome then .error .usage else .ok g
  | waiting, g, arg :: rest =>
    match readOption opts waiting g arg with
    | .error e => .error e
    | .ok (some (g, waiting)) => readCommand opts limit waiting g rest
    | .ok none =>
      if arg = "--" then addOperands limit g rest
      else
        match addOperands limit g [arg] with
        | .error e => .error e
        | .ok g => readCommand opts limit none g rest

structure CheckOptions where
  path : String
  format : String := "pretty"
  baseUrl : Option String := none
  allScripts : Bool := false
  allCalls : Bool := false
  simpleGrep : Bool := false
  failOnFindings : Bool := false
  noColor : Bool := false
  deriving DecidableEq, Repr

structure InitOptions where
  force : Bool := false
  dir : Option String := none
  deriving DecidableEq, Repr

inductive Action where
  | check (o : CheckOptions)
  | init (o : InitOptions)
  | patterns (dir : Option String)
  deriving DecidableEq, Repr

structure LogOptions where
  level : Log.Level := .warn
  file : Option String := none
  json : Bool := false
  deriving DecidableEq, Repr

structure Invocation where
  log : LogOptions
  action : Action
  deriving DecidableEq, Repr

def helpOption : Opt := { name := "help", short := some 'h' }

def globalOptions : List Opt :=
  [{ name := "log-level", kind := .level }, { name := "log-file", kind := .path },
    { name := "log-json" }, helpOption]

def topOptions : List Opt :=
  { name := "version", short := some 'V' } :: globalOptions

def checkOptions : List Opt :=
  [{ name := "format", short := some 'f', kind := .text },
    { name := "base-url", kind := .text }, { name := "all-scripts" }, { name := "all-calls" },
    { name := "simple-grep" }, { name := "fail-on-findings" }, { name := "no-color" }] ++
    globalOptions

def initOptions : List Opt :=
  [{ name := "force", short := some 'f' }, { name := "dir", kind := .path }] ++ globalOptions

def checkAction (g : Given) : Except Stop Action :=
  match g.operands with
  | [path] =>
    .ok (.check
      { path, format := (g.value? "format").getD "pretty", baseUrl := g.value? "base-url"
        allScripts := g.has "all-scripts", allCalls := g.has "all-calls"
        simpleGrep := g.has "simple-grep", failOnFindings := g.has "fail-on-findings"
        noColor := g.has "no-color" })
  | _ => .error .usage

/-- The log options; those after the command hold over those before it. -/
def logOptions (before after : Given) : LogOptions where
  level :=
    (((after.value? "log-level").or (before.value? "log-level")).bind Log.Level.ofName?).getD .warn
  file := (after.value? "log-file").or (before.value? "log-file")
  json := after.has "log-json" || before.has "log-json"

def commandNames : List String :=
  ["check", "init", "patterns", "help"]

/-- What the arguments after `help` ask for. They name a command there is, and as none has commands
of its own, no more than one. -/
def helpTopic : List String → Stop
  | [] => .help
  | [name] => if name ∈ commandNames then .help else .usage
  | _ => .usage

def readAction (name : String) (args : List String) : Except Stop (Given × Action) :=
  match name with
  | "check" => do
    let g ← readCommand checkOptions 1 none {} args
    return (g, ← checkAction g)
  | "init" => do
    let g ← readCommand initOptions 0 none {} args
    return (g, .init ⟨g.has "force", g.value? "dir"⟩)
  | "patterns" => do
    let g ← readCommand globalOptions 1 none {} args
    return (g, .patterns g.operands.head?)
  | "help" => .error (helpTopic args)
  | _ => .error .usage

def readArguments (args : List String) : Except Stop Invocation := do
  match ← readOptions topOptions none {} args with
  | (before, name :: rest) =>
    let (after, action) ← readAction name rest
    return ⟨logOptions before after, action⟩
  | (_, []) => .error .usage

end TaintGrep.Command
