import ProxyHeader.Entries
import ProxyHeader.Toml.Value

/-!
# Building tables

A document names its tables in headers, in dotted names and by implication, and the
rules that keep it from naming one twice depend on which of these named a table. A table
under construction remembers it; once the document is read it is a plain value.

* A header may name a table that was only implied before, and no other that exists.
* A dotted name may go through tables that dotted names made or that headers implied, and
  ends in a name that is new. It lays claim to the tables it goes through: no header may
  name them any more.
* A header for a list of tables begins a new table at the end of the list. Later names
  that go through the list go into its last table, where a dotted name has to go further
  than one step.
-/

namespace ProxyHeader

namespace Toml

/-- How a table was named. -/
inductive Origin where
  /-- A header goes through it, and nothing else named it. -/
  | implied
  | header
  /-- A dotted name goes through it. -/
  | dotted
  deriving DecidableEq, Repr

/-- An entry of a table under construction. -/
inductive Node where
  | closed (v : Value)
  | table (origin : Origin) (fields : List (String × Node))
  /-- A list of tables: those that are complete, and the last. -/
  | tables (done : List Value) (last : List (String × Node))
  deriving Repr

/-- The entries of a table under construction. -/
abbrev Fields := List (String × Node)

/-! ## Finished values -/

mutual

/-- The value of an entry. -/
def Node.value : Node → Value
  | .closed v => v
  | .table _ fields => .table (fieldValues fields)
  | .tables done last => .array (done ++ [.table (fieldValues last)])

/-- The values of all entries. -/
def fieldValues : List (String × Node) → List (String × Value)
  | [] => []
  | (k, n) :: fields => (k, n.value) :: fieldValues fields

end

namespace Fields

/-! ## Dotted names -/

/-- Enters a value under a dotted name. -/
def addEntry (v : Value) : List String → Fields → Option Fields
  | [], _ => none
  | [k], fields =>
    match Entries.get? k fields with
    | none => some (Entries.put k (.closed v) fields)
    | some _ => none
  | k :: k' :: ks, fields =>
    match Entries.get? k fields with
    | none =>
      (addEntry v (k' :: ks) []).map fun inner => Entries.put k (.table .dotted inner) fields
    | some (.table .header _) | some (.closed _) => none
    | some (.table _ inner) =>
      (addEntry v (k' :: ks) inner).map fun inner => Entries.put k (.table .dotted inner) fields
    | some (.tables done last) =>
      if ks.isEmpty then none
      else
        (addEntry v (k' :: ks) last).map fun last => Entries.put k (.tables done last) fields

/-! ## Headers -/

/-- Changes the table that a header's name leads to. Tables missing on the way are implied,
and `last` changes the entry that the last part of the name has. -/
def atHeader (last : Option Node → Option Node) : List String → Fields → Option Fields
  | [], _ => none
  | [k], fields => (last (Entries.get? k fields)).map fun n => Entries.put k n fields
  | k :: k' :: ks, fields =>
    match Entries.get? k fields with
    | none =>
      (atHeader last (k' :: ks) []).map fun inner => Entries.put k (.table .implied inner) fields
    | some (.table origin inner) =>
      (atHeader last (k' :: ks) inner).map fun inner => Entries.put k (.table origin inner) fields
    | some (.tables done tail) =>
      (atHeader last (k' :: ks) tail).map fun tail => Entries.put k (.tables done tail) fields
    | some (.closed _) => none

/-- Opens the table that a header names. -/
def openTable (path : List String) (fields : Fields) : Option Fields :=
  fields.atHeader (fun
    | none => some (.table .header [])
    | some (.table .implied inner) => some (.table .header inner)
    | some _ => none) path

/-- Begins a new table in the list that a header names. -/
def openElement (path : List String) (fields : Fields) : Option Fields :=
  fields.atHeader (fun
    | none => some (.tables [] [])
    | some (.tables done last) => some (.tables (done ++ [.table (fieldValues last)]) [])
    | some _ => none) path

/-- Enters a value under a dotted name in the table that the last header opened. -/
def addUnder (header path : List String) (v : Value) (fields : Fields) : Option Fields :=
  match header with
  | [] => fields.addEntry v path
  | header =>
    fields.atHeader (fun
      | some (.table origin inner) => (addEntry v path inner).map (.table origin ·)
      | some (.tables done last) => (addEntry v path last).map (.tables done ·)
      | _ => none) header

end Fields

end Toml

end ProxyHeader
