import PrecompileBridge.Text.Quoted

/-!
Outlines: structured values written for a reader, either on one line or as a block of lines. An
outline holds both layouts, and the functions here build the layouts of a whole from those of its
parts.
-/
namespace PrecompileBridge.Text

structure Outline where
  line : String
  block : List String

namespace Outline

/-- Text that is written the same in both layouts. -/
def atom (text : String) : Outline := ⟨text, [text]⟩

def text (content : String) : Outline := atom (quote content)

def nat (value : Nat) : Outline := atom (toString value)

def int (value : Int) : Outline := atom (toString value)

def bool (value : Bool) : Outline := atom (toString value)

def labelled (label : String) (part : Outline) : Outline :=
  ⟨label ++ part.line,
    match part.block with
    | [] => [label]
    | head :: rest => (label ++ head) :: rest⟩

def indented : List String → List String
  | [] => []
  | [last] => ["    " ++ last ++ ","]
  | head :: rest => ("    " ++ head) :: indented rest

def enclosed (opening closing : String) (parts : List Outline) : Outline :=
  ⟨opening ++ String.intercalate ", " (parts.map line) ++ closing,
    if parts.isEmpty then [opening ++ closing]
    else opening :: parts.flatMap (fun part => indented part.block) ++ [closing]⟩

def tuple (name : String) (parts : List Outline) : Outline := enclosed (name ++ "(") ")" parts

def list (parts : List Outline) : Outline := enclosed "[" "]" parts

def set (parts : List Outline) : Outline := enclosed "\x7b" "\x7d" parts

def mapping (pairs : List (String × Outline)) : Outline :=
  set (pairs.map fun pair => pair.2.labelled (pair.1 ++ ": "))

def option (part : Option Outline) : Outline :=
  match part with
  | none => atom "None"
  | some part => tuple "Some" [part]

private def fieldsOf (fields : List (String × Outline)) : List Outline :=
  fields.map fun field => field.2.labelled (field.1 ++ ": ")

def record (name : String) (fields : List (String × Outline)) : Outline :=
  let parts := fieldsOf fields
  ⟨name ++ " \x7b " ++ String.intercalate ", " (parts.map line) ++ " \x7d",
    (name ++ " \x7b") :: parts.flatMap (fun part => indented part.block) ++ ["\x7d"]⟩

/-- A record that has more parts than it shows. -/
def openRecord (name : String) (fields : List (String × Outline)) : Outline :=
  let parts := fieldsOf fields
  ⟨name ++ " \x7b " ++ String.intercalate ", " (parts.map line ++ [".."]) ++ " \x7d",
    (name ++ " \x7b") :: parts.flatMap (fun part => indented part.block) ++ ["    ..", "\x7d"]⟩

def render (outline : Outline) (blockwise : Bool) : String :=
  if blockwise then String.intercalate "\n" outline.block else outline.line

end Outline

end PrecompileBridge.Text
