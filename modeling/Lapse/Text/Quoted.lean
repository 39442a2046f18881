import Lapse.Text.Category

/-!
# Quoted characters and texts

How a diagnostic shows a character or a text: between quotes, with a backslash before what would
be misread and code points in place of what has no visible shape.
-/
namespace Lapse.Text.Quoted

def hexDigits (n : Nat) : List Char := Nat.toDigits 16 n

/-- The code point in hexadecimal, as `\u` with braces. -/
def codePoint (c : Char) : List Char :=
  "\\u\x7b".toList ++ hexDigits c.toNat ++ ['\x7d']

/-- One character between quotes of the kind `quote`. -/
def inner (quote c : Char) : List Char :=
  if c = '\x00' then "\\0".toList
  else if c = '\t' then "\\t".toList
  else if c = '\r' then "\\r".toList
  else if c = '\n' then "\\n".toList
  else if c = '\\' then "\\\\".toList
  else if c = quote then ['\\', c]
  else if extendsGrapheme c then codePoint c
  else if isPrintable c then [c]
  else codePoint c

def char (c : Char) : String :=
  String.ofList ('\'' :: inner '\'' c ++ ['\''])

def text (s : String) : String :=
  String.ofList ('"' :: s.toList.flatMap (inner '"') ++ ['"'])

/-- A list of quoted texts, in brackets. -/
def list (items : List String) : String :=
  "[" ++ ", ".intercalate (items.map text) ++ "]"

end Lapse.Text.Quoted
