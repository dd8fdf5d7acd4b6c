import PrecompileBridge.Address.Text
import PrecompileBridge.Registry
import PrecompileBridge.Text.Blank

/-!
The denylist names contracts that the host switches off at startup. It is read from a
comma-separated text or from an environment variable, and it only ever disables. How an entry is
read as an address is left to a reader.
-/
namespace PrecompileBridge

inductive DenylistError
  /-- The variable is not set, or its value is no text. -/
  | missingVariable (key : String)
  | blankVariable (key : String)
  | invalidAddress (entry reason : String)
  deriving DecidableEq

namespace DenylistError

def name : DenylistError → String
  | missingVariable _ => "MissingEnv"
  | blankVariable _ => "EmptyEnv"
  | invalidAddress _ _ => "InvalidAddress"

def detail (entry reason : String) : String := entry ++ ": " ++ reason

def message : DenylistError → String
  | missingVariable key => "environment variable " ++ key ++ " is not set"
  | blankVariable key => "environment variable " ++ key ++ " is empty"
  | invalidAddress entry reason => "invalid precompile address: " ++ detail entry reason

end DenylistError

/-- Addresses whose contracts start out disabled. -/
structure Denylist where
  disabled : AddressSet

namespace Denylist

def defaultVariable : String := "EV_DISABLED_PRECOMPILES"

def empty : Denylist := ⟨.empty⟩

def ofList (addresses : List Address) : Denylist := ⟨AddressSet.ofList addresses⟩

instance : BEq Denylist := ⟨fun first second => first.disabled == second.disabled⟩

def lists (denylist : Denylist) (address : Address) : Bool := denylist.disabled.contains address

theorem lists_ofList {addresses : List Address} {address : Address} :
    (ofList addresses).lists address = true ↔ address ∈ addresses :=
  AddressSet.contains_ofList

theorem ext_lists {first second : Denylist}
    (same : ∀ address, first.lists address = true ↔ second.lists address = true) :
    first = second := by
  cases first
  cases second
  exact congrArg mk (AddressSet.ext_contains same)

/-- The entries of a list: what stands between commas, trimmed, without the blank pieces. -/
def entries (text : String) : List String :=
  (((Text.split ',' text.toList).map Text.trim).filter (fun piece => !piece.isEmpty)).map
    String.ofList

/-- Reads every entry, or reports the first that is no address. -/
def readAll (read : Address.Reader) : List String → Except DenylistError (List Address)
  | [] => .ok []
  | entry :: rest =>
    match read entry with
    | .error reason => .error (.invalidAddress entry reason)
    | .ok address =>
      match readAll read rest with
      | .error error => .error error
      | .ok addresses => .ok (address :: addresses)

def parse (text : String) (read : Address.Reader := Address.read) : Except DenylistError Denylist :=
  match readAll read (entries text) with
  | .error error => .error error
  | .ok addresses => .ok (ofList addresses)

def textOf? (value : Option ByteArray) : Option String := value.bind String.fromUTF8?

def ofVariable (key : String) (value : Option ByteArray) (read : Address.Reader := Address.read) :
    Except DenylistError Denylist :=
  match textOf? value with
  | none => .error (.missingVariable key)
  | some text =>
    let trimmed := Text.trim text.toList
    if trimmed.isEmpty then .error (.blankVariable key)
    else parse (String.ofList trimmed) read

/-- Reads the default variable; without a value in it nothing is disabled. -/
def ofDefaultVariable (value : Option ByteArray) (read : Address.Reader := Address.read) :
    Except DenylistError Denylist :=
  match ofVariable defaultVariable value read with
  | .error (.missingVariable _) => .ok empty
  | .error (.blankVariable _) => .ok empty
  | result => result

structure Applied (Label : Type) where
  catalog : Catalog Label
  unknown : List Address
  notices : List Notice

variable {Label : Type}

def applyAll (registry : Registry) : Catalog Label → List Address → Applied Label
  | catalog, [] => ⟨catalog, [], []⟩
  | catalog, address :: rest =>
    match registry.custom? address with
    | some id =>
      let later := applyAll registry (catalog.writeFlag id true) rest
      { later with
        notices := .denied address (catalog.nameOf id) :: later.notices }
    | none =>
      let later := applyAll registry catalog rest
      { later with
        unknown := address :: later.unknown
        notices := .unregistered address :: later.notices }

/-- Applies the denylist in ascending order of the addresses. -/
def apply (denylist : Denylist) (registry : Registry) (catalog : Catalog Label) : Applied Label :=
  applyAll registry catalog denylist.disabled.keys

end Denylist

end PrecompileBridge
