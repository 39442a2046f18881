import Lapse.Toml.Quoted

/-!
# Writing TOML

Documents whose values are texts, booleans and lists of texts, one assignment after the other.
-/
namespace Lapse.Toml

/-- A value that stands in a written document. -/
inductive Field
  | text (value : String)
  | flag (value : Bool)
  | texts (items : List String)
  deriving DecidableEq, Repr

/-- A list of two or more items has each on a line of its own. -/
def listText : List String → List Char
  | [] => "[]".toList
  | [item] => '[' :: quote item ++ [']']
  | items => "[\n".toList ++ items.flatMap (fun item => "    ".toList ++ quote item ++ ",\n".toList)
      ++ [']']

def Field.written : Field → List Char
  | text value => quote value
  | flag value => (if value then "true" else "false").toList
  | texts items => listText items

def documentText (assignments : List (String × Field)) : List Char :=
  assignments.flatMap fun (key, value) =>
    key.toList ++ " = ".toList ++ value.written ++ ['\n']

end Lapse.Toml
