import ScopeLexer.Regex.Search
import ScopeLexer.Scan.Display
import ScopeLexer.Session

/-! The command line. Arguments name a language and a source, add definitions, and choose what is
shown. What is written and how the program ends depend on nothing but the arguments and the contents
of the files. -/

namespace ScopeLexer.CommandLine

open Json

/-! ### Arguments -/

structure Arguments where
  lang : Option String := none
  source : Option String := none
  grammars : List String := []
  list : Bool := false
  json : Bool := false
  color : Bool := false
  maxDepth : Option Nat := none
  deriving DecidableEq, Repr

/-- A number up to `largest`, perhaps after a plus sign. -/
def unsigned? (s : String) : Option Nat :=
  let digits := match s.toList with
    | '+' :: cs => cs
    | cs => cs
  if digits.isEmpty || !digits.all Char.isDigit then none
  else
    let n := digits.foldl (fun n c => 10 * n + (c.toNat - '0'.toNat)) 0
    if n ≤ largest then some n else none

/-- Switches a flag on, unless it is on. -/
def once (on : Bool) : Option Bool := if on then none else some true

namespace Arguments

/-- A file is named by a text that is not empty. -/
def addGrammar (a : Arguments) (file : String) : Option Arguments :=
  if file.isEmpty then none else some { a with grammars := a.grammars ++ [file] }

def setMaxDepth (a : Arguments) (value : String) : Option Arguments := do
  if a.maxDepth.isSome then none
  else return { a with maxDepth := some (← unsigned? value) }

/-- The language comes first, the source second. -/
def addPlain (a : Arguments) (arg : String) : Option Arguments :=
  match a.lang, a.source with
  | none, _ => some { a with lang := some arg }
  | some _, none => if arg.isEmpty then none else some { a with source := some arg }
  | some _, some _ => none

/-- A flag that takes no value. -/
def setFlag (a : Arguments) : String → Option Arguments
  | "list" => do return { a with list := ← once a.list }
  | "json" => do return { a with json := ← once a.json }
  | "color" => do return { a with color := ← once a.color }
  | _ => none

/-- What a flag with a value does with it. -/
def setter? : String → Option (Arguments → String → Option Arguments)
  | "grammar" => some addGrammar
  | "max-depth" => some setMaxDepth
  | _ => none

end Arguments

/-- What an argument is before `--`: a long flag, perhaps with a value after an equals sign, a short
one with what follows its letter, the mark that ends all flags, or something plain. -/
inductive Shape
  | long (name : String) (value : Option String)
  | short (letter : Char) (rest : List Char)
  | endOfFlags
  | plain

def Shape.of (arg : String) : Shape :=
  match arg.toList with
  | ['-', '-'] => endOfFlags
  | '-' :: '-' :: cs =>
    let name := String.ofList (cs.takeWhile (· ≠ '='))
    match cs.dropWhile (· ≠ '=') with
    | _ :: value => long name (some (String.ofList value))
    | [] => long name none
  | '-' :: c :: cs => short c cs
  | _ => plain

/-- A value in an argument of its own looks like no flag. -/
def isValue (arg : String) : Bool :=
  match Shape.of arg with
  | .plain => true
  | _ => false

/-- A value after its letter; an equals sign between them does not belong to it. -/
def attached (cs : List Char) : String :=
  match cs with
  | '=' :: cs => String.ofList cs
  | cs => String.ofList cs

namespace Arguments

/-- Sets a value that stands in the next argument. -/
def setNext (set : Arguments → String → Option Arguments) (a : Arguments) (value : String) :
    Option Arguments :=
  if isValue value then set a value else none

/-- Reads arguments one after the other. -/
def readFrom (a : Arguments) : List String → Option Arguments
  | [] => some a
  | arg :: args =>
    match Shape.of arg with
    | .endOfFlags => args.foldlM addPlain a
    | .plain => (a.addPlain arg).bind (readFrom · args)
    | .long name (some value) =>
      (setter? name).bind fun set => (set a value).bind (readFrom · args)
    | .long name none =>
      match setter? name, args with
      | none, args => (a.setFlag name).bind (readFrom · args)
      | some set, value :: args => (setNext set a value).bind (readFrom · args)
      | some _, [] => none
    | .short 'g' [] =>
      match args with
      | value :: args => (setNext addGrammar a value).bind (readFrom · args)
      | [] => none
    | .short 'g' cs => (a.addGrammar (attached cs)).bind (readFrom · args)
    | .short _ _ => none

/-- Reads a command line, unless it is refused. -/
def read (args : List String) : Option Arguments := do
  let a ← readFrom {} args
  if a.json && a.color then none else return a

end Arguments

/-! ### Results -/

/-- What ends a command early. -/
inductive Failure
  | noLanguage
  | unreadableSource
  | notText
  | error (e : Error)
  deriving DecidableEq, Repr

def Failure.written : Failure → String
  | noLanguage => Text.quoted "a grammar id is required unless --list is given"
  | unreadableSource => "Os"
  | notText => "Error"
  | error e => e.written

/-- What a command writes, and its exit code. -/
structure Outcome where
  exit : Nat
  stdout : String
  stderr : String
  deriving DecidableEq, Repr

namespace Outcome

def success (stdout : String) : Outcome := ⟨0, stdout, ""⟩

/-- A failure after some output. -/
def failure (stdout : String) (f : Failure) : Outcome := ⟨1, stdout, "Error: " ++ f.written⟩

def usage : String :=
  "usage: [-g|--grammar FILE]... [--list] [--json|--color] [--max-depth N] [LANG [FILE]]"

/-- The command line is refused. -/
def refusal : Outcome := ⟨2, "", usage⟩

end Outcome

/-! ### Commands -/

/-- The session of a command. -/
def session (a : Arguments) (file : String → Except FileFault Bytes) : Except Error Session :=
  let options : Options := { depthLimit := a.maxDepth.getD ({} : Options).depthLimit }
  a.grammars.foldlM (fun s path => s.registerRead (Language.Definition.ofFile (file path)))
    { Session.standard with options }

/-- The languages of a session, by id. -/
def languageLines (s : Session) : String :=
  String.join (s.catalogue.ids.filterMap fun id =>
    (s.catalogue.find? id).map fun d => id ++ ": " ++ d.name ++ "\n")

/-- A source holds text. -/
def sourceText : Except FileFault Bytes → Except Failure String
  | .error _ => .error .unreadableSource
  | .ok bytes =>
    match String.fromUTF8? ⟨bytes.toArray⟩ with
    | some s => .ok s
    | none => .error .notText

/-- Shows the chunks of a source. Colours are written chunk by chunk, everything else at the end. -/
def display (a : Arguments) (s : Session) (lang source : String) : Outcome :=
  let run := (s.parse lang source).1
  if a.color then
    let shown := String.join (run.items.map Chunk.coloured)
    match run.error? with
    | some e => .failure shown (.error e)
    | none => .success (shown ++ "\n")
  else
    match run.result with
    | .error e => .failure "" (.error e)
    | .ok chunks =>
      if a.json then .success ((Value.list (chunks.map Chunk.toJson)).text ++ "\n")
      else .success (String.join (chunks.map Chunk.listing))

/-- Carries out what the arguments ask for. -/
def execute (a : Arguments) (file : String → Except FileFault Bytes) (stdin : Bytes) : Outcome :=
  match session a file with
  | .error e => .failure "" (.error e)
  | .ok s =>
    if a.list then .success (languageLines s)
    else
      match a.lang with
      | none => .failure "" .noLanguage
      | some lang =>
        match sourceText ((a.source.map file).getD (.ok stdin)) with
        | .error f => .failure "" f
        | .ok source => display a s lang source

/-- Runs a command line. -/
def run (args : List String) (file : String → Except FileFault Bytes) (stdin : Bytes) : Outcome :=
  match Arguments.read args with
  | none => .refusal
  | some a => execute a file stdin

end ScopeLexer.CommandLine
