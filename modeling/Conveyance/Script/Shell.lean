import Conveyance.Compiler.Compile
import Conveyance.Script.Command

/-!
# Script/Shell — a script run on files

A `Shell` holds the files, the parameters and variables, the last status and what has been written so
far.  `Shell.run` goes through commands by recursion on them: every loop is over words, so **a script
always ends**, by reaching its last command, by `exit`, or by being killed by its own hand.  What
commands write as messages is dropped.
-/

namespace Conveyance

/-- A shell at work. -/
structure Shell where
  files : FileTree
  /-- The parameters, from the name of the script on. -/
  parameters : List Text
  bound : List (Text × Text) := []
  status : Nat := 0
  /-- What commands read. -/
  input : List UInt8 := []
  /-- What commands have written. -/
  output : List UInt8 := []
  /-- How the script has ended, once it has. -/
  ending : Option Ending := none

namespace Shell

/-- The number by which the shell knows itself. -/
def ownNumber : Text := ['1', '0', '0']

/-! ## Words -/

/-- The value of a parameter or variable. -/
def value (s : Shell) (name : Text) : Text :=
  if name = ['#'] then Text.ofNat (s.parameters.length - 1)
  else if name = ['?'] then Text.ofNat s.status
  else if name = ['$'] then ownNumber
  else if name = ['@'] || name = ['*'] then Text.join [' '] (s.parameters.drop 1)
  else if Text.isDigits name then (s.parameters[Text.digitsValue name]?).getD []
  else ((s.bound.find? (·.1 = name)).map (·.2)).getD []

/-- A text fits a pattern in which `none` stands for any characters. -/
def fits : List (Option Char) → Text → Bool
  | [], t => t.isEmpty
  | some c :: p, d :: t => c == d && fits p t
  | some _ :: _, [] => false
  | none :: p, [] => fits p []
  | none :: p, d :: t => fits p (d :: t) || fits (none :: p) t
termination_by p t => p.length + t.length

/-- Texts in the order of their characters. -/
def precedes : Text → Text → Bool
  | [], _ => true
  | _ :: _, [] => false
  | c :: s, d :: t => c < d || (c == d && precedes s t)

/-- The names in the current directory that fit a pattern; hidden ones do not. -/
def matching (s : Shell) (pattern : List (Option Char)) : List Text :=
  let names := (s.files.below s.files.here).filterMap fun (p, _) =>
    match p with
    | [name] => some name
    | _ => none
  (names.filter fun n => n.head? != some '.' && fits pattern n).mergeSort precedes

/-- A word as texts: the names that it fits where it holds a star, and nothing where it is empty and
was not quoted. -/
def expand (s : Shell) (w : Word) : List Text :=
  let plain := w.pieces.flatMap fun
    | .text t => t
    | .value name => s.value name
    | .star => ['*']
  let pattern := w.pieces.flatMap fun
    | .text t => t.map some
    | .value name => (s.value name).map some
    | .star => [none]
  let found := if w.pieces.contains .star then s.matching pattern else []
  if !found.isEmpty then found
  else if plain.isEmpty && !w.quoted then []
  else [plain]

/-- A word as one text. -/
def expandOne (s : Shell) (w : Word) : Text := Text.join [' '] (s.expand w)

/-! ## Plain commands -/

/-- The outcome of a command. -/
def done (s : Shell) (status : Nat) : Shell := { s with status }

/-- Something written. -/
def say (s : Shell) (t : Text) : Shell := { s with output := s.output ++ Text.utf8 t, status := 0 }

/-- Files changed, or a failure. -/
def change (s : Shell) : Except FileFault FileTree → Shell
  | .ok files => { s with files }
  | .error _ => s.done 1

/-- What a letter after a backslash stands for. -/
def escaped? : Char → Option Char
  | 'n' => some '\n'
  | 't' => some '\t'
  | 'r' => some '\r'
  | '\\' => some '\\'
  | _ => none

/-- A text with the letters after backslashes replaced. -/
def unescape : Text → Text
  | '\\' :: c :: t =>
    match escaped? c with
    | some d => d :: unescape t
    | none => '\\' :: c :: unescape t
  | c :: t => c :: unescape t
  | [] => []

/-- A format with its marks filled in, and the arguments that are left. -/
def fill : Text → List Text → Text × List Text
  | '%' :: '%' :: t, args =>
    let (r, args) := fill t args
    ('%' :: r, args)
  | '%' :: c :: t, args =>
    if c == 's' || c == 'd' then
      let (r, rest) := fill t (args.drop 1)
      (args.head?.getD (if c == 'd' then ['0'] else []) ++ r, rest)
    else
      let (r, rest) := fill t args
      ('%' :: c :: r, rest)
  | c :: t, args =>
    let (r, rest) := fill t args
    (c :: r, rest)
  | [], args => ([], args)

/-- A format filled in again and again until all arguments are used. -/
def fillAll : (rounds : Nat) → Text → List Text → Text
  | 0, _, _ => []
  | rounds + 1, format, args =>
    let (t, rest) := fill format args
    if rest.isEmpty || rest.length = args.length then t else t ++ fillAll rounds format rest

/-- Where a file goes that is given a target: into it, when that is a directory. -/
def targetOf (files : FileTree) (source target : Text) : Text :=
  if files.isDirectory target then Path.joined target ((Path.fileName? source).getD []) else target

/-- One file copied. -/
def copy (s : Shell) (source target : Text) : Shell :=
  s.change do s.files.write (targetOf s.files source target) (← s.files.read source)

/-- The bytes of files, one after another; a dash stands for what the command reads. -/
def concatenate (s : Shell) (paths : List Text) : Shell :=
  paths.foldl (fun s p =>
    if p = ['-'] then { s with output := s.output ++ s.input }
    else match s.files.read p with
      | .ok bytes => { s with output := s.output ++ bytes }
      | .error _ => s.done 1) (s.done 0)

/-- The node that a path leads to. -/
def nodeAt? (s : Shell) (path : Text) : Option Node := (s.files.find path).toOption

/-- A condition. -/
def holds (s : Shell) : List Text → Bool
  | [] => false
  | [t] => !t.isEmpty
  | [op, t] =>
    let node := s.nodeAt? t
    match String.ofList op with
    | "-e" | "-r" => node.isSome
    | "-f" => node.any (· != .directory)
    | "-d" => node = some .directory
    | "-s" => node.any fun
      | .file bytes _ => !bytes.isEmpty
      | .directory => true
    | "-x" => node.any fun
      | .file _ runnable => runnable
      | .directory => true
    | "-n" => !t.isEmpty
    | "-z" => t.isEmpty
    | "!" => t.isEmpty
    | _ => false
  | [a, op, b] =>
    match String.ofList op with
    | "=" => a = b
    | "!=" => a != b
    | "-eq" => Text.readInt? a = Text.readInt? b
    | "-ne" => Text.readInt? a != Text.readInt? b
    | _ => a = ['!'] && !s.holds [op, b]
  | ['!'] :: rest => !s.holds rest
  | _ => false
termination_by args => args.length

/-- The words for signals that end a program, and their numbers. -/
def deadly : List String :=
  ["1", "2", "3", "6", "9", "11", "13", "14", "15", "HUP", "INT", "QUIT", "ABRT", "KILL", "SEGV",
    "PIPE", "ALRM", "TERM", "SIGHUP", "SIGINT", "SIGQUIT", "SIGABRT", "SIGKILL", "SIGSEGV",
    "SIGPIPE", "SIGALRM", "SIGTERM"]

/-- A signal sent by the shell, which ends it when it is meant for itself. -/
def signal (s : Shell) (name target : Text) : Shell :=
  if target = ownNumber then
    if deadly.any (·.toList = name) then { s with ending := some .killed } else s.done 0
  else s.done 1

/-- **A plain command.** -/
def plain (s : Shell) (name : String) (args : List Text) : Shell :=
  let files := args.filter fun a => a.head? != some '-'
  match name, args with
  | ":", _ | "true", _ | "set", _ | "export", _ | "sleep", _ | "chmod", _ => s.done 0
  | "false", _ => s.done 1
  | "exit", [] => { s with ending := some (.exited s.status) }
  | "exit", n :: _ =>
    { s with ending := some (.exited (if Text.isDigits n then Text.digitsValue n % 256 else 2)) }
  | "echo", ['-', 'n'] :: rest => s.say (unescape (Text.join [' '] rest))
  | "echo", rest => s.say (unescape (Text.join [' '] rest) ++ ['\n'])
  | "printf", format :: rest => s.say (fillAll (rest.length + 1) (unescape format) rest)
  | "cat", [] => { s with output := s.output ++ s.input, status := 0 }
  | "cat", paths => s.concatenate paths
  | "cp", _ | "mv", _ =>
    match files with
    | [source, target] =>
      if name = "cp" then (s.done 0).copy source target
      else (s.done 0).change (s.files.rename source (targetOf s.files source target))
    | _ => s.done 1
  | "rm", _ =>
    let force := args.any fun a => a.head? == some '-' && a.contains 'f'
    files.foldl (fun s p => match s.files.remove p with
      | .ok files => { s with files }
      | .error .noEntry => if force then s else s.done 1
      | .error _ => s.done 1) (s.done 0)
  | "mkdir", _ =>
    let deep := args.any (· = ['-', 'p'])
    files.foldl (fun s p =>
      if deep then
        let (r, files) := s.files.makeDirectories p
        { s with files, status := if r.isOk then s.status else 1 }
      else s.change (s.files.makeDirectory p)) (s.done 0)
  | "touch", _ =>
    files.foldl (fun s p => match s.nodeAt? p with
      | some _ => s
      | none => s.change (s.files.write p [])) (s.done 0)
  | "ls", [] => s.say ((s.matching [none]).flatMap (· ++ ['\n']))
  | "pwd", _ => s.say ('/' :: Text.join ['/'] s.files.here ++ ['\n'])
  | "test", _ => s.done (if s.holds args then 0 else 1)
  | "[", _ => s.done (if args.getLast? = some [']'] && s.holds args.dropLast then 0 else 1)
  | "kill", ['-', 's'] :: signalName :: [target] => s.signal signalName target
  | "kill", ('-' :: signalName) :: [target] => s.signal signalName target
  | "kill", [target] => s.signal "TERM".toList target
  | _, _ => s.done 127

/-! ## Redirections -/

/-- Where what a command writes goes. -/
inductive Sink where
  /-- Where the shell itself writes. -/
  | shell
  | nowhere
  | file (path : Text)
  deriving DecidableEq

/-- A command's redirections, as they have been opened. -/
structure Opened where
  files : FileTree
  sink : Sink := .shell
  input : List UInt8
  deriving DecidableEq

/-- The path of the file that keeps nothing. -/
def nothingPath : Text := "/dev/null".toList

/-- One redirection opened; a file that is written to is there from now on. -/
def openOne (s : Shell) (o : Opened) : Redirection → Except FileFault Opened
  | .into descriptor w appending => do
    let path := s.expandOne w
    if path = nothingPath then return if descriptor = 1 then { o with sink := .nowhere } else o
    let files ← if appending && (o.files.find path).isOk then
        (o.files.read path).map fun _ => o.files
      else o.files.write path []
    return { o with files, sink := if descriptor = 1 then .file path else o.sink }
  | .fromFile w => do
    let path := s.expandOne w
    if path = nothingPath then return { o with input := [] }
    return { o with input := ← o.files.read path }
  | .like 1 2 => .ok { o with sink := .nowhere }
  | .like _ _ => .ok o

/-- Something run with redirections; when one cannot be opened, it is not run. -/
def redirected (s : Shell) (rs : List Redirection) (run : Shell → Shell) : Shell :=
  match rs.foldlM s.openOne { files := s.files, input := s.input : Opened } with
  | .error _ => s.done 2
  | .ok o =>
    let r := run { s with files := o.files, input := o.input, output := [] }
    let r' := { r with input := s.input }
    match o.sink with
    | .shell => { r' with output := s.output ++ r.output }
    | .nowhere => { r' with output := s.output }
    | .file path =>
      let before := (r.files.read path).toOption.getD []
      let files := (r.files.write path (before ++ r.output)).toOption.getD r.files
      { r' with files, output := s.output }

/-! ## Commands -/

/-- A word that sets a variable: a name, an equals sign and its value. -/
def assignment? (t : Text) : Option (Text × Text) :=
  let name := t.takeWhile fun c => c.isAlphanum || c == '_'
  match t.dropWhile fun c => c.isAlphanum || c == '_' with
  | '=' :: value => if name.isEmpty || name.any Char.isDigit then none else some (name, value)
  | _ => none

/-- A variable set. -/
def assign (s : Shell) (name value : Text) : Shell :=
  { s with bound := (name, value) :: s.bound.filter (·.1 != name), status := 0 }

/-- Words run as a plain command. -/
def runWords (s : Shell) (words : List Word) : Shell :=
  match words.flatMap s.expand with
  | [] => s.done 0
  | name :: args =>
    match assignment? name with
    | some (x, v) => s.assign x v
    | none => s.plain (String.ofList name) args

mutual

/-- One command. -/
def runOne (c : Command) (s : Shell) : Shell :=
  if s.ending.isSome then s
  else match c with
    | .simple words rs => s.redirected rs fun s => s.runWords words
    | .loop x words body rs => s.redirected rs fun s =>
      (words.flatMap s.expand).foldl (fun s v =>
        if s.ending.isSome then s else run body (s.assign x v)) (s.done 0)
    | .branch condition body alternative rs => s.redirected rs fun s =>
      let s := run condition s
      if s.status = 0 then run body s else run alternative (s.done 0)
    | .group body rs => s.redirected rs fun s => run body s
    | .both first second =>
      let s := runOne first s
      if s.status = 0 then runOne second s else s
    | .either first second =>
      let s := runOne first s
      if s.status = 0 then s else runOne second s
    | .pipe first second =>
      let r := runOne first { s with output := [] }
      let q := runOne second { s with files := r.files, input := r.output }
      { q with input := s.input }
    | .opposite c =>
      let s := runOne c s
      s.done (if s.status = 0 then 1 else 0)

/-- **Commands, one after another.** -/
def run (cs : List Command) (s : Shell) : Shell :=
  match cs with
  | [] => s
  | c :: cs => run cs (runOne c s)

end

end Shell

end Conveyance
