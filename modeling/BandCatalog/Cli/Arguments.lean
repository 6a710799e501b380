import BandCatalog.Catalog.Page

/-!
# Arguments

The words of the command line. Commands are nested: each has options and operands of its own, and the
options that may stand anywhere. An option for one value may come once at each level of nesting; what
is given at a deeper level counts.
-/
namespace BandCatalog.Cli

/-- Which bands are listed, and how. -/
structure Listing where
  name : Option String
  /-- A genre as it was typed. -/
  genre : Option String
  page : PageRequest
  deriving DecidableEq, Repr

/-- What the program is asked to do. -/
inductive Command where
  | login (username : Option String)
  | register (username : String)
  | logout
  | status
  | whoami
  | list (l : Listing)
  | get (id : Int)
  | delete (id : Int)
  deriving DecidableEq, Repr

structure Invocation where
  command : Command
  json : Bool
  verbose : Bool
  apiUrl : Option String
  deriving DecidableEq, Repr

/-- Why nothing is done. -/
inductive Refusal where
  | usage
  | help
  | version
  deriving DecidableEq, Repr

/-- What an option takes, and how often. -/
inductive Arity where
  | flag
  | one
  | many
  deriving DecidableEq, Repr

structure OptionSpec where
  name : String
  letter : Option Char
  arity : Arity
  deriving DecidableEq, Repr

/-- The options that may stand anywhere. -/
def everywhere : List OptionSpec :=
  [⟨"verbose", some 'v', .flag⟩, ⟨"json", none, .flag⟩, ⟨"api-url", none, .one⟩]

def listingOptions : List OptionSpec :=
  [⟨"page", none, .one⟩, ⟨"size", none, .one⟩, ⟨"sort", none, .many⟩, ⟨"desc", none, .flag⟩,
    ⟨"name", none, .one⟩, ⟨"genre", none, .one⟩]

inductive Verb where
  | login | register | logout | status | whoami | list | get | delete
  deriving DecidableEq, Repr

/-- How far the commands have been read. -/
inductive Level where
  | program
  | bands
  | verb (v : Verb)
  deriving DecidableEq, Repr

namespace Level

/-- The commands of a level. -/
def commands : Level → List (String × Level)
  | program => [("login", verb .login), ("register", verb .register), ("logout", verb .logout),
      ("status", verb .status), ("whoami", verb .whoami), ("bands", bands)]
  | bands => [("list", verb .list), ("get", verb .get), ("delete", verb .delete)]
  | verb _ => []

def command? (l : Level) (word : String) : Option Level := l.commands.lookup word

def options : Level → List OptionSpec
  | verb .list => everywhere ++ listingOptions
  | _ => everywhere

/-- How many operands there may be. -/
def operands : Level → Nat
  | verb .login => 1
  | verb .register => 1
  | verb .get => 1
  | verb .delete => 1
  | _ => 0

end Level

inductive Word where
  /-- All words after it are operands. -/
  | separator
  | long (name : String) (value : Option String)
  | letters (cs : List Char)
  | plain (s : String)
  deriving DecidableEq, Repr

/-- A dash alone is a plain word. -/
def Word.of (s : String) : Word :=
  match s.toList with
  | ['-', '-'] => separator
  | '-' :: '-' :: cs =>
    let name := String.ofList (cs.takeWhile (· ≠ '='))
    match cs.dropWhile (· ≠ '=') with
    | [] => long name none
    | _ :: value => long name (some (String.ofList value))
  | '-' :: c :: cs => letters (c :: cs)
  | _ => plain s

/-- What has been read so far. -/
structure Reading where
  level : Level
  /-- Options of the levels above and their values, in order. -/
  above : List (String × String)
  /-- Options of this level. -/
  here : List (String × String)
  operands : List String
  deriving DecidableEq, Repr

namespace Reading

def start : Reading := ⟨.program, [], [], []⟩

def given (r : Reading) : List (String × String) := r.above ++ r.here

def descend (r : Reading) (l : Level) : Reading := ⟨l, r.given, [], r.operands⟩

def option? (r : Reading) (name : String) : Option OptionSpec :=
  r.level.options.find? fun o => o.name = name

/-- An option with its value. -/
def give (r : Reading) (o : OptionSpec) (value : String) : Except Refusal Reading :=
  if o.arity ≠ .many ∧ r.here.any (fun x => x.1 = o.name) then .error .usage
  else .ok { r with here := r.here ++ [(o.name, value)] }

def operand (r : Reading) (s : String) : Except Refusal Reading :=
  if r.operands.length < r.level.operands then .ok { r with operands := r.operands ++ [s] }
  else .error .usage

/-- Options by their letters. -/
def letters (r : Reading) : List Char → Except Refusal Reading
  | [] => .ok r
  | c :: cs =>
    match r.level.options.find? fun o => o.letter = some c with
    | some o => (r.give o "").bind fun r => r.letters cs
    | none => .error (if c = 'h' then .help else if c = 'V' then .version else .usage)

/-- A word that is no option: a command of this level, or an operand. -/
def plain (r : Reading) (s : String) : Except Refusal Reading :=
  match r.level.command? s with
  | some l => .ok (r.descend l)
  | none => r.operand s

/-- An option by its name, with a value or without. -/
def long (r : Reading) (name : String) : Option String → Except Refusal Reading
  | value =>
    match r.option? name, value with
    | none, _ => .error (if name = "help" then .help else if name = "version" then .version else .usage)
    | some o, some v => if o.arity = .flag then .error .usage else r.give o v
    | some o, none => if o.arity = .flag then r.give o "" else .error .usage

/-- Whether an option by that name takes the word after it. -/
def takesWord (r : Reading) (name : String) : Bool :=
  (r.option? name).any fun o => o.arity ≠ .flag

/-- The words of a command line. The value of an option may be a word of its own unless it starts
with a dash. -/
def words (r : Reading) : List String → Except Refusal Reading
  | [] => .ok r
  | w :: ws =>
    match Word.of w with
    | .separator => ws.foldlM operand r
    | .letters cs => (r.letters cs).bind fun r => r.words ws
    | .plain s =>
      if s = "help" ∧ r.level.commands ≠ [] then
        .error (if (ws.foldlM Level.command? r.level).isSome then .help else .usage)
      else (r.plain s).bind fun r => r.words ws
    | .long name none =>
      if r.takesWord name then
        match ws with
        | [] => .error .usage
        | v :: ws =>
          match Word.of v with
          | .plain v => (r.long name (some v)).bind fun r => r.words ws
          | _ => .error .usage
      else (r.long name none).bind fun r => r.words ws
    | .long name value => (r.long name value).bind fun r => r.words ws

def value? (r : Reading) (name : String) : Option String :=
  (r.given.reverse.find? fun x => x.1 = name).map Prod.snd

def values (r : Reading) (name : String) : List String :=
  (r.given.filter fun x => x.1 = name).map Prod.snd

def flag (r : Reading) (name : String) : Bool := (r.value? name).isSome

end Reading

/-- An integer in decimal digits, with a sign or without. -/
def integer? (s : String) : Option Int :=
  let digits (cs : List Char) : Option Nat :=
    if cs ≠ [] ∧ cs.all Char.isDigit then
      some (cs.foldl (fun n c => 10 * n + (c.toNat - '0'.toNat)) 0)
    else none
  match s.toList with
  | '-' :: cs => (digits cs).map fun n => -(n : Int)
  | '+' :: cs => (digits cs).map Int.ofNat
  | cs => (digits cs).map Int.ofNat

/-- An integer within bounds. -/
def bounded? (least greatest : Int) (s : String) : Option Int :=
  (integer? s).filter fun i => least ≤ i ∧ i ≤ greatest

def identifier? : String → Option Int := bounded? (-9223372036854775808) 9223372036854775807

def count? (s : String) : Option UInt32 :=
  (bounded? 0 4294967295 s).map fun i => .ofNat i.toNat

namespace Reading

/-- The value of an option for a number; what it is if the option is not given. -/
def count (r : Reading) (name : String) (standard : UInt32) : Except Refusal UInt32 :=
  match r.value? name with
  | none => .ok standard
  | some s =>
    match count? s with
    | some n => .ok n
    | none => .error .usage

def listing (r : Reading) : Except Refusal Listing := do
  let page ← r.count "page" PageRequest.first.page
  let size ← r.count "size" PageRequest.first.size
  let direction := if r.flag "desc" then some .descending else none
  return ⟨r.value? "name", r.value? "genre", ⟨page, size, r.values "sort", direction⟩⟩

def identifier (r : Reading) : Except Refusal Int :=
  match r.operands.head?.bind identifier? with
  | some id => .ok id
  | none => .error .usage

def command (r : Reading) : Except Refusal Command :=
  match r.level with
  | .program => .error .usage
  | .bands => .error .usage
  | .verb .login => .ok (.login r.operands.head?)
  | .verb .register =>
    match r.operands.head? with
    | some username => .ok (.register username)
    | none => .error .usage
  | .verb .logout => .ok .logout
  | .verb .status => .ok .status
  | .verb .whoami => .ok .whoami
  | .verb .list => r.listing.map .list
  | .verb .get => r.identifier.map .get
  | .verb .delete => r.identifier.map .delete

end Reading

/-- What a command line asks for. -/
def Invocation.ofArguments (ws : List String) : Except Refusal Invocation := do
  let r ← Reading.start.words ws
  let command ← r.command
  return ⟨command, r.flag "json", r.flag "verbose", r.value? "api-url"⟩

end BandCatalog.Cli
