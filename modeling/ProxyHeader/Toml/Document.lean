import ProxyHeader.Toml.Quotation
import ProxyHeader.Toml.Scalar
import ProxyHeader.Toml.Table

/-!
# Reading TOML documents

`Document.parse?` reads a document as a list of lines, each a header or a name with a
value, and builds the table that they describe. There is no answer if the text is no
TOML document or names something twice; where it goes wrong is not told.

Arrays and inline tables may be nested to a depth of `nestingLimit`. Inside both, a line
may end on either side of a name or a value.
-/

namespace ProxyHeader

namespace Toml

/-! ## Values -/

/-- How deep arrays and inline tables may be nested. -/
def nestingLimit : Nat := 80

/-- The elements of an array up to its closing bracket, of which there are fewer than
`limit`. -/
def elements (read : List Char → Option (Value × List Char)) :
    (limit : Nat) → List Char → Option (List Value × List Char)
  | 0, _ => none
  | limit + 1, cs => do
    match ← skipTrivia false cs with
    | ']' :: cs => return ([], cs)
    | cs =>
      let (v, cs) ← read cs
      match ← skipTrivia false cs with
      | ',' :: cs =>
        let (vs, cs) ← elements read limit cs
        return (v :: vs, cs)
      | ']' :: cs => return ([v], cs)
      | _ => none

/-- A name, an equals sign and a value, with what `skip` leaves out on both sides of the
sign. -/
def pair (skip : List Char → Option (List Char)) (read : List Char → Option (Value × List Char))
    (cs : List Char) : Option ((List String × Value) × List Char) := do
  let (path, cs) ← names cs
  let (v, cs) ← read (← skip (← Scan.after? '=' (← skip cs)))
  return ((path, v), cs)

/-- The entries of an inline table up to its closing brace, of which there are fewer than
`limit`. -/
def pairs (read : List Char → Option (Value × List Char)) :
    (limit : Nat) → List Char → Option (List (List String × Value) × List Char)
  | 0, _ => none
  | limit + 1, cs => do
    match ← skipTrivia false cs with
    | '\x7d' :: cs => return ([], cs)
    | cs =>
      let (p, cs) ← pair (skipTrivia false) read cs
      match ← skipTrivia false cs with
      | ',' :: cs =>
        let (ps, cs) ← pairs read limit cs
        return (p :: ps, cs)
      | '\x7d' :: cs => return ([p], cs)
      | _ => none

/-- The inline table with the given entries. -/
def inlineTable? (ps : List (List String × Value)) : Option Value :=
  (ps.foldlM (fun fields (path, v) => Fields.addEntry v path fields) []).map fun fields =>
    .table (fieldValues fields)

/-- A value at the front, in which arrays and inline tables are nested less than `depth`
deep. -/
def value : (depth : Nat) → List Char → Option (Value × List Char)
  | 0, _ => none
  | depth + 1, cs =>
    match cs with
    | '[' :: cs =>
      if depth = 0 then none
      else (elements (value depth) (cs.length + 1) cs).map fun (vs, cs) => (.array vs, cs)
    | '\x7b' :: cs =>
      if depth = 0 then none
      else do
        let (ps, cs) ← pairs (value depth) (cs.length + 1) cs
        return (← inlineTable? ps, cs)
    | '"' :: _ | '\x27' :: _ => (quoted cs).map fun (s, cs) => (.text s, cs)
    | cs => scalar? cs

/-! ## Lines -/

/-- A line that says something. -/
inductive Line where
  | table (path : List String)
  | element (path : List String)
  | entry (path : List String) (v : Value)

/-- The line at the front, and what follows its end. -/
def line (cs : List Char) : Option (Line × List Char) :=
  match cs with
  | '[' :: '[' :: cs => do
    let (path, cs) ← names cs
    let cs ← endOfLine (← Scan.after? ']' (← Scan.after? ']' cs))
    return (.element path, cs)
  | '[' :: cs => do
    let (path, cs) ← names cs
    let cs ← endOfLine (← Scan.after? ']' cs)
    return (.table path, cs)
  | cs => do
    let ((path, v), cs) ← pair (some <| skipBlanks ·) (value (nestingLimit + 1)) cs
    return (.entry path v, ← endOfLine cs)

/-- All lines, of which there are fewer than `limit`. -/
def linesUpTo : (limit : Nat) → List Char → Option (List Line)
  | 0, _ => none
  | limit + 1, cs => do
    match ← skipTrivia false cs with
    | [] => return []
    | cs =>
      let (l, cs) ← line cs
      return l :: (← linesUpTo limit cs)

/-- The entries that lines describe, given those so far and the last header. -/
def build : List Line → List String → Fields → Option Fields
  | [], _, fields => some fields
  | .table path :: ls, _, fields => (fields.openTable path).bind (build ls path)
  | .element path :: ls, _, fields => (fields.openElement path).bind (build ls path)
  | .entry path v :: ls, header, fields =>
    (fields.addUnder header path v).bind (build ls header)

/-! ## Documents -/

/-- A document: its names with their values. -/
abbrev Document := List (String × Value)

/-- Reads a document, which may open with a byte order mark. -/
def Document.parse? (s : String) : Option Document := do
  let cs := Scan.afterMark s.toList
  let ls ← linesUpTo (cs.length + 1) cs
  let fields ← build ls [] []
  return fieldValues fields

end Toml

end ProxyHeader
