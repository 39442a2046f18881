import Lapse.Text.CategoryTable
import Lapse.Text.Intervals
import Lapse.Text.Property

/-!
# General categories and the classes built from them

The general category of every character, and the classes that layouts, patterns and quotations
rest on: alphanumeric characters, word characters and printable characters.
-/
namespace Lapse.Text

inductive Category
  | lu | ll | lt | lm | lo | mn | mc | me | nd | nl | no | pc | pd | ps | pe | pi | pf | po
  | sm | sc | sk | so | zs | zl | zp | cc | cf | cs | co | cn
  deriving DecidableEq, Repr

namespace Category

def named : List (String × Category) :=
  [("Lu", lu), ("Ll", ll), ("Lt", lt), ("Lm", lm), ("Lo", lo), ("Mn", mn), ("Mc", mc), ("Me", me),
   ("Nd", nd), ("Nl", nl), ("No", no), ("Pc", pc), ("Pd", pd), ("Ps", ps), ("Pe", pe), ("Pi", pi),
   ("Pf", pf), ("Po", po), ("Sm", sm), ("Sc", sc), ("Sk", sk), ("So", so), ("Zs", zs), ("Zl", zl),
   ("Zp", zp), ("Cc", cc), ("Cf", cf), ("Cs", cs), ("Co", co), ("Cn", cn)]

def ofName (name : String) : Category := (named.lookup name).getD cn

structure Runs where
  starts : Array Nat
  kinds : Array Category

/-- Reads the table of runs: each word is a category's name and the length of the run. -/
def Runs.ofLines (lines : List String) : Runs :=
  let (starts, kinds, _) := (lines.flatMap fun line => words line.toList).foldl (fun (starts, kinds, start) word =>
    (starts.push start, kinds.push (ofName (String.ofList (word.take 2))),
      start + hexValue (word.drop 2))) ((#[] : Array Nat), (#[] : Array Category), 0)
  ⟨starts, kinds⟩

def runs : Runs := .ofLines categoryRuns

def of (c : Char) : Category :=
  runs.kinds.getD (countAtMost runs.starts c.toNat runs.starts.size 0 runs.starts.size - 1) cn

def isNumber (k : Category) : Bool := k = nd ∨ k = nl ∨ k = no

def isMark (k : Category) : Bool := k = mn ∨ k = mc ∨ k = me

end Category

def isAlphabetic (c : Char) : Bool :=
  if c.val < 128 then c.isAlpha else Property.alphabetic.contains c

/-- Letters and numbers of every script. -/
def isAlphanumeric (c : Char) : Bool :=
  if c.val < 128 then c.isAlphanum
  else Property.alphabetic.contains c || (Category.of c).isNumber

/-- Letters, marks, decimal digits, connecting punctuation and the two joiners. -/
def isWord (c : Char) : Bool :=
  if c.val < 128 then c.isAlphanum || c = '_'
  else Property.alphabetic.contains c || (Category.of c).isMark || Category.of c = .nd ||
    Category.of c = .pc || Property.joinControl.contains c

/-- Characters that extend the one before them and have no shape of their own. -/
def extendsGrapheme (c : Char) : Bool :=
  if c.val < 128 then false else Property.graphemeExtend.contains c

/-- Everything but controls, format characters, unassigned ones and blanks other than a space. -/
def isPrintable (c : Char) : Bool :=
  if c.val < 128 then 32 ≤ c.val ∧ c.val < 127
  else match Category.of c with
    | .cc | .cf | .cs | .co | .cn | .zl | .zp | .zs => false
    | _ => true

end Lapse.Text
