import Lapse.Regex.CharSet
import Lapse.Text.Age
import Lapse.Text.Property
import Lapse.Text.ScriptExtension
import Lapse.Text.Segment

/-!
# Character properties by name

The names after `\p` in a pattern: yes-or-no properties, general categories and scripts, and the
properties that have values, each with the names of its values.
-/
namespace Lapse.Regex.Property

open Lapse.Text (Category Intervals)

/-- A name without `is` in front, blanks, `_`, `-` and what is not ASCII, in lower case. -/
def normalize (name : List Char) : List Char :=
  let begins := (name.take 2).map Char.toLower = ['i', 's']
  let rest := if begins then name.drop 2 else name
  let kept := (rest.filter fun c => c ≠ ' ' ∧ c ≠ '_' ∧ c ≠ '-' ∧ c.val < 128).map Char.toLower
  if begins ∧ kept = ['c'] then ['i', 's', 'c'] else kept

/-- The general categories and their groups under all their names. Surrogates, which are no
characters, have none. -/
def categories : List (List String × List Category) :=
  [(["lu", "uppercaseletter"], [.lu]), (["ll", "lowercaseletter"], [.ll]),
   (["lt", "titlecaseletter"], [.lt]), (["lc", "casedletter"], [.lu, .ll, .lt]),
   (["lm", "modifierletter"], [.lm]), (["lo", "otherletter"], [.lo]),
   (["l", "letter"], [.lu, .ll, .lt, .lm, .lo]),
   (["mn", "nonspacingmark"], [.mn]), (["mc", "spacingmark"], [.mc]),
   (["me", "enclosingmark"], [.me]), (["m", "mark", "combiningmark"], [.mn, .mc, .me]),
   (["nd", "decimalnumber", "digit"], [.nd]), (["nl", "letternumber"], [.nl]),
   (["no", "othernumber"], [.no]), (["n", "number"], [.nd, .nl, .no]),
   (["pc", "connectorpunctuation"], [.pc]), (["pd", "dashpunctuation"], [.pd]),
   (["ps", "openpunctuation"], [.ps]), (["pe", "closepunctuation"], [.pe]),
   (["pi", "initialpunctuation"], [.pi]), (["pf", "finalpunctuation"], [.pf]),
   (["po", "otherpunctuation"], [.po]),
   (["p", "punctuation", "punct"], [.pc, .pd, .ps, .pe, .pi, .pf, .po]),
   (["sm", "mathsymbol"], [.sm]), (["sc", "currencysymbol"], [.sc]),
   (["sk", "modifiersymbol"], [.sk]), (["so", "othersymbol"], [.so]),
   (["s", "symbol"], [.sm, .sc, .sk, .so]),
   (["zs", "spaceseparator"], [.zs]), (["zl", "lineseparator"], [.zl]),
   (["zp", "paragraphseparator"], [.zp]), (["z", "separator"], [.zs, .zl, .zp]),
   (["cc", "control", "cntrl"], [.cc]), (["cf", "format"], [.cf]),
   (["co", "privateuse"], [.co]), (["cn", "unassigned"], [.cn]),
   (["c", "other"], [.cc, .cf, .cs, .co, .cn])]

def find? {α : Type} (table : List (List String × α)) (name : String) : Option α :=
  (table.find? fun row => row.1.contains name).map (·.2)

def category? (name : String) : Option CharSet :=
  if name = "any" then some .any
  else if name = "ascii" then some (.interval '\x00' '\x7f')
  else if name = "assigned" then some (.compl (.categories [.cn]))
  else (find? categories name).map .categories

/-- The set in the row of a table that has this name. -/
def tabled? (table : List (List String × Intervals)) (name : String) : Option CharSet :=
  (find? table name).map .table

def script? (name : String) : Option CharSet := tabled? Text.Script.named name

/-- The characters that are used with a script, whether they belong to it alone or not. -/
def scriptExtension? (name : String) : Option CharSet :=
  (tabled? Text.Script.extended name).or (script? name)

/-- The characters of a version of the character database, those of the versions before it among
them. -/
def age? (name : String) : Option CharSet :=
  let earlier := Text.Age.versions.takeWhile fun row => !row.1.contains name
  (Text.Age.versions[earlier.length]?).map fun version =>
    .ofList ((earlier ++ [version]).map fun row => .table row.2)

/-- The set that a name without a value stands for. -/
def ofName? (name : List Char) : Option CharSet :=
  let name := String.ofList (normalize name)
  let property := if name = "cf" ∨ name = "sc" ∨ name = "lc" then none
    else tabled? Text.Property.named name
  property.or ((category? name).or (script? name))

/-- The properties that have values, and the set of the characters that have a value. -/
def valued : List (List String × (String → Option CharSet)) :=
  [(["gc", "generalcategory"], category?), (["sc", "script"], script?),
   (["scx", "scriptextensions"], scriptExtension?), (["age"], age?),
   (["gcb", "graphemeclusterbreak"], tabled? Text.Segment.character),
   (["wb", "wordbreak"], tabled? Text.Segment.word),
   (["sb", "sentencebreak"], tabled? Text.Segment.sentence)]

/-- The set of the characters for which a property has a value. -/
def ofValue? (property value : List Char) : Option CharSet :=
  (find? valued (String.ofList (normalize property))).bind fun set? =>
    set? (String.ofList (normalize value))

end Lapse.Regex.Property
