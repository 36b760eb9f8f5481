import ReadThrough.Config.Basic
import ReadThrough.SocketAddress

/-! The command line of a node. An option takes its value from behind an equals sign or
from the next argument; that value is checked when the next option or the end is reached,
so an argument that is not known at all is reported before a bad value. -/

namespace ReadThrough

structure CommandLine where
  addr : String := "http://127.0.0.1:8001"
  peers : List String := []
  api : Option SocketAddress := none
  cacheBytes : Nat := 2048
  admissionK : Nat := 1
  fetchTimeoutMs : Nat := 3000
  verbose : Bool := false
deriving Repr, DecidableEq

namespace CommandLine

/-- Why a node does not start from a command line. Asking for help is one reason. -/
inductive Error where
  | unknownArgument
  | missingValue
  | badValue
  | repeated
  | surplusValue
  | helpWanted
deriving Repr, DecidableEq

/-- Options that take a value. -/
inductive Setting where
  | addr
  | peers
  | api
  | cacheBytes
  | admissionK
  | fetchTimeoutMs
deriving Repr, DecidableEq

def Setting.named : List (String × Setting) :=
  [("addr", addr), ("peers", peers), ("api", api), ("cache-bytes", cacheBytes),
    ("admission-k", admissionK), ("fetch-timeout-ms", fetchTimeoutMs)]

/-- What one argument is by its form. -/
inductive Argument where
  | setting (setting : Setting) (value : Option String)
  | verbose
  | help
  | surplus
  | endOfOptions
  | unknown
  | plain (text : String)
deriving Repr, DecidableEq

/-- The argument behind two hyphens. Switches take no value. -/
def Argument.ofLong (text : List Char) : Argument :=
  let name := String.ofList (text.takeWhile (· ≠ '='))
  let value := match text.dropWhile (· ≠ '=') with
    | [] => none
    | _ :: value => some (String.ofList value)
  match Setting.named.lookup name, name, value with
  | some named, _, value => setting named value
  | none, "verbose", none => verbose
  | none, "help", none => help
  | none, "verbose", some _ => surplus
  | none, "help", some _ => surplus
  | none, _, _ => unknown

/-- A lone hyphen is a value; a cluster of short switches is read from its first one. -/
def Argument.ofText (text : String) : Argument :=
  match text.toList with
  | ['-', '-'] => endOfOptions
  | '-' :: '-' :: long => ofLong long
  | '-' :: 'h' :: _ => help
  | '-' :: _ :: _ => unknown
  | _ => plain text

/-- A count that fits 64 bits; a plus sign may stand before it. -/
def count? (text : String) : Option Nat :=
  let digits := match text.toList with
    | '+' :: digits => digits
    | digits => digits
  Ipv4.below? 10 0x10000000000000000 digits

/-- Gives a setting its value. Peers add to those already given. -/
def assign (settings : CommandLine) (setting : Setting) (value : String) : Option CommandLine :=
  match setting with
  | .addr => some { settings with addr := value }
  | .peers =>
    let peers := (value.toList.splitOn ',').map String.ofList
    some { settings with peers := settings.peers ++ peers }
  | .api => (SocketAddress.parse? value).map fun api => { settings with api := some api }
  | .cacheBytes => (count? value).map fun count => { settings with cacheBytes := count }
  | .admissionK => (count? value).map fun count => { settings with admissionK := count }
  | .fetchTimeoutMs => (count? value).map fun count => { settings with fetchTimeoutMs := count }

/-- How far reading has come: `pending` is a setting whose value is not yet checked or not
yet there. -/
structure Reader where
  settings : CommandLine := {}
  given : List Setting := []
  pending : Option (Setting × Option String) := none
  closed : Bool := false

namespace Reader

/-- Only peers may be given more than once. -/
def store (reader : Reader) (setting : Setting) (value : String) : Except Error Reader :=
  if setting ≠ .peers ∧ setting ∈ reader.given then .error .repeated
  else
    match reader.settings.assign setting value with
    | none => .error .badValue
    | some settings => .ok { reader with settings, given := setting :: reader.given }

/-- Checks and stores the value of the pending setting. -/
def settle (reader : Reader) : Except Error Reader :=
  match reader.pending with
  | none => .ok reader
  | some (_, none) => .error .missingValue
  | some (setting, some value) => { reader with pending := none }.store setting value

def step (reader : Reader) (argument : String) : Except Error Reader :=
  if reader.closed then .error .unknownArgument
  else
    match Argument.ofText argument, reader.pending with
    | .setting setting none, _ => do
      return { ← reader.settle with pending := some (setting, none) }
    | .setting setting (some value), _ => do (← reader.settle).store setting value
    | .verbose, _ => do
      let reader ← reader.settle
      if reader.settings.verbose then throw .repeated
      return { reader with settings := { reader.settings with verbose := true } }
    | .help, _ => do
      let _ ← reader.settle
      throw .helpWanted
    | .surplus, _ => .error .surplusValue
    | .endOfOptions, _ => .ok { reader with closed := true }
    | .unknown, _ => .error .unknownArgument
    | .plain value, some (setting, none) =>
      .ok { reader with pending := some (setting, some value) }
    | .plain _, _ => .error .unknownArgument

end Reader

/-- Reads the arguments behind the program's name. -/
def read (arguments : List String) : Except Error CommandLine := do
  let reader ← arguments.foldlM Reader.step {}
  return (← reader.settle).settings

/-- The configuration that a command line asks for. -/
def config (settings : CommandLine) : Config where
  addr := settings.addr
  peers := settings.peers
  cacheBytes := settings.cacheBytes
  admissionK := settings.admissionK
  fetchTimeoutMs := settings.fetchTimeoutMs

end CommandLine

end ReadThrough
