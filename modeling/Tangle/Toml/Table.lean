namespace Tangle.Toml

/-!
# Tables of settings

Settings are made of strings, dates, lists and tables.  A table remembers how it came
to be, because that decides what may still be added to it: a table written in
line is complete, one opened by a header cannot be reopened or reached by a
dotted name, and one that only stands above another may still be opened.
-/

/-- How a table came to be. -/
inductive Origin where
  /-- A header named a table inside it. -/
  | above
  /-- A header named it. -/
  | header
  /-- A dotted name went through it. -/
  | dotted
  /-- It was written in line. -/
  | complete
  deriving Repr, DecidableEq

/-- The value of a setting. -/
inductive Value where
  | text (text : String)
  | date (text : String)
  | list (items : List Value)
  | table (origin : Origin) (entries : List (String × Value))

/-- The settings of a table, in the order in which they were first named. -/
abbrev Entries := List (String × Value)

/-- Give the setting of a name another value. -/
def replace (name : String) (value : Value) : Entries → Entries
  | [] => []
  | (other, present) :: rest =>
      if other = name then (other, value) :: rest else (other, present) :: replace name value rest

/-- Set the value under a dotted name, which must be new. -/
def assign (value : Value) : List String → Entries → Option Entries
  | [], _ => none
  | [name], entries =>
      match entries.lookup name with
      | none => some (entries ++ [(name, value)])
      | some _ => none
  | name :: next :: deeper, entries =>
      match entries.lookup name with
      | none =>
          (assign value (next :: deeper) []).map
            (fun inside => entries ++ [(name, .table .dotted inside)])
      | some (.table .dotted inside) =>
          (assign value (next :: deeper) inside).map
            (fun inside => replace name (.table .dotted inside) entries)
      | some (.table .above inside) =>
          (assign value (next :: deeper) inside).map
            (fun inside => replace name (.table .above inside) entries)
      | some _ => none

/-- Open the table of a header. -/
def openTable : List String → Entries → Option Entries
  | [], _ => none
  | [name], entries =>
      match entries.lookup name with
      | none => some (entries ++ [(name, .table .header [])])
      | some (.table .above inside) => some (replace name (.table .header inside) entries)
      | some _ => none
  | name :: next :: deeper, entries =>
      match entries.lookup name with
      | none =>
          (openTable (next :: deeper) []).map
            (fun inside => entries ++ [(name, .table .above inside)])
      | some (.table .complete _) => none
      | some (.table origin inside) =>
          (openTable (next :: deeper) inside).map
            (fun inside => replace name (.table origin inside) entries)
      | some _ => none

/-- Set the value under a dotted name inside the table that a header has opened. -/
def assignUnder (value : Value) (path : List String) : List String → Entries → Option Entries
  | [], entries => assign value path entries
  | name :: deeper, entries =>
      match entries.lookup name with
      | some (.table origin inside) =>
          (assignUnder value path deeper inside).map
            (fun inside => replace name (.table origin inside) entries)
      | _ => none

namespace Value

/-- The text of a value that is one. -/
def text? : Value → Option String
  | .text known => some known
  | _ => none

/-- The texts of a value that is a list of them. -/
def texts? : Value → Option (List String)
  | .list items => items.mapM text?
  | _ => none

/-- The name under which a date is handed over where a table is expected. -/
def dateName : String := "$__toml_private_datetime"

/-- The texts by name of a value that is a table of them; a date is a table of its own text. -/
def textTable? : Value → Option (List (String × String))
  | .date known => some [(dateName, known)]
  | .table _ entries => entries.mapM (fun entry => entry.2.text?.map (entry.1, ·))
  | _ => none

end Value

namespace Entries

/-- Read an optional setting: nothing if it is missing, and failure if it has another form. -/
def optional? (read : Value → Option α) (name : String) (entries : Entries) :
    Option (Option α) :=
  match List.lookup name entries with
  | none => some none
  | some value => (read value).map some

/-- Whether every setting has one of some names. -/
def hasOnly (names : List String) (entries : Entries) : Bool :=
  List.all entries (fun entry => names.contains entry.1)

end Entries

end Tangle.Toml
