import PrecompileBridge.Text.Printable

/-!
Quoted texts and characters. A quoted form is one line of shown characters: the delimiter and the
backslash are escaped, and so is every character that is not shown.
-/
namespace PrecompileBridge.Text

def escapeCode (c : Char) : List Char :=
  ['\\', 'u', '\x7b'] ++ Nat.toDigits 16 c.toNat ++ ['\x7d']

/-- One character of a quoted form. Only the delimiter in use is escaped, not the other one. -/
def escape (delimiter c : Char) : List Char :=
  if c = delimiter ∨ c = '\\' then ['\\', c]
  else if c = '\n' then ['\\', 'n']
  else if c = '\t' then ['\\', 't']
  else if c = '\r' then ['\\', 'r']
  else if c = '\x00' then ['\\', '0']
  else if isShown c then [c]
  else escapeCode c

def quote (text : String) : String :=
  String.ofList (['\x22'] ++ text.toList.flatMap (escape '\x22') ++ ['\x22'])

def quoteChar (c : Char) : String :=
  String.ofList (['\x27'] ++ escape '\x27' c ++ ['\x27'])

end PrecompileBridge.Text
