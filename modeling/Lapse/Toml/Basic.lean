/-!
# TOML values and tables

A document is a list of statements. Its table is built statement by statement: a header opens a
table, an assignment puts a value into the open one. A table remembers how it came to be, because
that decides what may still be put into it.
-/
namespace Lapse

/-- What made a table: its own header, the header of a table below it, a key with dots, or braces. -/
inductive Toml.Origin
  | header | implied | dotted | braces
  deriving DecidableEq, Repr

inductive Toml
  | string (value : String)
  | boolean (value : Bool)
  | integer (value : Int)
  /-- A number that is not an integer, as it is written. -/
  | float (literal : String)
  /-- A date, a time or both, as it is written. -/
  | moment (literal : String)
  | array (items : List Toml)
  | table (origin : Toml.Origin) (entries : List (String × Toml))
  /-- The tables that headers in double brackets made, in order. -/
  | tables (items : List (List (String × Toml)))
  deriving Repr, Inhabited

namespace Toml

abbrev Entries := List (String × Toml)

/-- A key with the names before its last dot. -/
structure DottedKey where
  front : List String
  last : String
  deriving DecidableEq, Repr

inductive Statement
  /-- `[key]` -/
  | header (key : DottedKey)
  /-- `[[key]]` -/
  | item (key : DottedKey)
  | assignment (key : DottedKey) (value : Toml)
  deriving Repr

def find? (entries : Entries) (name : String) : Option Toml := entries.lookup name

/-- Gives the entry of a name a new value. -/
def replace (entries : Entries) (name : String) (value : Toml) : Entries :=
  entries.map fun e => if e.1 = name then (name, value) else e

/-- Puts a new name into a table. -/
def insert? (entries : Entries) (name : String) (value : Toml) : Option Entries :=
  match find? entries name with
  | none => some (entries ++ [(name, value)])
  | some _ => none

/-- Applies `change` to the last table of some. -/
def changeLast? (change : Entries → Option Entries) : List Entries → Option (List Entries)
  | [] => none
  | [entries] => (change entries).map ([·])
  | first :: rest => (changeLast? change rest).map (first :: ·)

/-- Applies `change` to the entry of a name. -/
def changeEntry? (entries : Entries) (name : String) (ifMissing : Option Toml)
    (change : Toml → Option Toml) : Option Entries :=
  match find? entries name with
  | none => ifMissing.bind fun value => insert? entries name value
  | some value => (change value).map (replace entries name)

/-- Puts a value under a dotted key. The names before the last one lead to tables that dotted keys
made; only on the way there may they be implied by headers. -/
def assign? : (front : List String) → (last : String) → Toml → Entries → Option Entries
  | [], last, value, entries => insert? entries last value
  | name :: front, last, value, entries =>
    changeEntry? entries name ((assign? front last value []).map (.table .dotted))
      fun
      | .table origin inner =>
        if origin = .dotted ∨ origin = .implied ∧ front ≠ [] then
          (assign? front last value inner).map (.table origin)
        else none
      | .tables items =>
        if front = [] then none
        else (changeLast? (assign? front last value) items).map .tables
      | _ => none

/-- Applies `change` to the table that the names of a header lead to, making those that are
missing. -/
def changeBelow? (change : Entries → Option Entries) : List String → Entries → Option Entries
  | [], entries => change entries
  | name :: front, entries =>
    changeEntry? entries name ((changeBelow? change front []).map (.table .implied))
      fun
      | .table .braces _ => none
      | .table origin inner => (changeBelow? change front inner).map (.table origin)
      | .tables items => (changeLast? (changeBelow? change front) items).map .tables
      | _ => none

/-- Opens a table by its header. Only a table implied so far can be opened again. -/
def openTable? (key : DottedKey) : Entries → Option Entries :=
  changeBelow? (fun entries => changeEntry? entries key.last (some (.table .header []))
    fun
    | .table .implied inner => some (.table .header inner)
    | _ => none) key.front

/-- Opens a new table at the end of the tables of a key. -/
def openItem? (key : DottedKey) : Entries → Option Entries :=
  changeBelow? (fun entries => changeEntry? entries key.last (some (.tables [[]]))
    fun
    | .tables items => some (.tables (items ++ [[]]))
    | _ => none) key.front

/-- The table of statements that come after `header`, the names of the open table. -/
def addAll? : (header : List String) → Entries → List Statement → Option Entries
  | _, entries, [] => some entries
  | header, entries, statement :: rest =>
    match statement with
    | .header key => do addAll? (key.front ++ [key.last]) (← openTable? key entries) rest
    | .item key => do addAll? (key.front ++ [key.last]) (← openItem? key entries) rest
    | .assignment key value => do
      addAll? header (← changeBelow? (assign? key.front key.last value) header entries) rest

def ofStatements? (statements : List Statement) : Option Entries := addAll? [] [] statements

/-- The table in braces with these assignments. -/
def ofPairs? (pairs : List (DottedKey × Toml)) : Option Toml :=
  (pairs.foldlM (fun entries pair => assign? pair.1.front pair.1.last pair.2 entries) []).map
    (.table .braces)

def string? : Toml → Option String
  | string value => some value
  | _ => none

def boolean? : Toml → Option Bool
  | boolean value => some value
  | _ => none

def strings? : Toml → Option (List String)
  | array items => items.mapM string?
  | _ => none

end Toml

end Lapse
