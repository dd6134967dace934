import StyleScan.Toml.Scalar

/-!
# StyleScan.Toml.Document

A TOML document: values, sections, and the rules on what may be defined twice.

* `Toml.value?`   — a value of any type.
* `Toml.Section`  — a header with the keys and values under it.
* `Toml.Item`     — what a key stands for while the document is put together.
* `Toml.parse?`   — the table of a whole document.
-/

namespace StyleScan
namespace Toml

/-! ## Putting tables together -/

/-- What a key stands for while the document is put together. A table is `implicit` when no header
names it, and `dotted` when a dotted key made it. -/
inductive Item where
  | value (v : Value)
  | table (implicit dotted : Bool) (items : List (String × Item))
  | tables (elements : List (List (String × Item)))
deriving Inhabited

/-- The items of a table under construction. -/
abbrev Items := List (String × Item)

namespace Items

/-- The item of a key. -/
def get? (key : String) : Items → Option Item
  | [] => none
  | (name, item) :: rest => if name = key then some item else get? key rest

/-- Replaces the item of a key, or adds it behind the others. -/
def set (key : String) (item : Item) : Items → Items
  | [] => [(key, item)]
  | (name, old) :: rest =>
    if name = key then (name, item) :: rest else (name, old) :: set key item rest

/-- Removes a key. -/
def erase (key : String) : Items → Items
  | [] => []
  | (name, item) :: rest => if name = key then rest else (name, item) :: erase key rest

/-- Changes the table at the end of a path of keys. Missing tables are made on the way, as parts of
a dotted key if `dotted` is set; an array of tables stands for its last element. -/
def change? (dotted : Bool) (path : List String) (f : Items → Option Items) (items : Items) :
    Option Items :=
  match path with
  | [] => f items
  | key :: path =>
    match items.get? key with
    | none => (change? dotted path f []).map fun t => items.set key (.table true dotted t)
    | some (.value _) => none
    | some (.table implicit wasDotted inner) =>
      if dotted && !implicit then none
      else (change? dotted path f inner).map fun t => items.set key (.table implicit wasDotted t)
    | some (.tables elements) =>
      match elements.reverse with
      | [] => none
      | last :: before =>
        (change? dotted path f last).map fun t => items.set key (.tables (t :: before).reverse)

/-- Adds a key that must be new. -/
def insertNew? (key : String) (item : Item) (items : Items) : Option Items :=
  match items.get? key with
  | none => some (items.set key item)
  | some _ => none

end Items

/-- Splits a path into the way to its last key and that key. -/
def splitLast? : List String → Option (List String × String)
  | [] => none
  | [key] => some ([], key)
  | key :: path => (splitLast? path).map fun r => (key :: r.1, r.2)

/-- Whether the table at the end of a path, where it exists, is part of a dotted key. A dotted key
may not extend a table that a header has made. -/
def endsDotted : List String → Items → Bool
  | [], _ => true
  | [key], items =>
    match items.get? key with
    | some (.table _ dotted _) => dotted
    | some (.tables _) => false
    | _ => true
  | key :: path, items =>
    match items.get? key with
    | some (.table _ _ inner) => endsDotted path inner
    | some (.tables elements) => endsDotted path (elements.getLast?.getD [])
    | _ => true

/-- Adds a key, dotted or not, with its value. -/
def assign? (key : List String) (v : Value) (items : Items) : Option Items :=
  match splitLast? key with
  | none => none
  | some (path, name) =>
    if endsDotted path items then items.change? true path (Items.insertNew? name (.value v))
    else none

mutual

/-- The value that an item stands for. -/
def Item.toValue : Item → Value
  | .value v => v
  | .table _ _ items => .table (toTable items)
  | .tables elements => .array (toTables elements)

/-- The table of the items under a header. -/
def toTable : List (String × Item) → List (String × Value)
  | [] => []
  | (key, item) :: rest => (key, item.toValue) :: toTable rest

/-- The tables of an array of tables. -/
def toTables : List (List (String × Item)) → List Value
  | [] => []
  | items :: rest => .table (toTable items) :: toTables rest

end

/-! ## Values -/

/-- A truth value. -/
def truth? : List Char → Option (Value × List Char)
  | 't' :: 'r' :: 'u' :: 'e' :: cs => some (.bool true, cs)
  | 'f' :: 'a' :: 'l' :: 's' :: 'e' :: cs => some (.bool false, cs)
  | _ => none

mutual

/-- A value; `depth` more levels of arrays and tables may be opened. -/
def value? (depth : Nat) : Nat → List Char → Option (Value × List Char)
  | 0, _ => none
  | _ + 1, [] => none
  | fuel + 1, c :: cs =>
    if c = '"' ∨ c = '\'' then (quoted? (c :: cs)).map fun r => (.str r.1, r.2)
    else if c = '[' then
      match depth with
      | 0 => none
      | depth + 1 => (items? depth fuel cs).map fun r => (.array r.1, r.2)
    else if c = '{' then
      match depth with
      | 0 => none
      | depth + 1 =>
        match blank cs with
        | '}' :: rest => some (.table [], rest)
        | cs => (fields? depth fuel cs []).map fun r => (.table (toTable r.1), r.2)
    else if c = 't' ∨ c = 'f' then truth? (c :: cs)
    else number? (c :: cs)

/-- The items of an array behind its opening bracket; a comma may stand behind the last one. -/
def items? (depth : Nat) : Nat → List Char → Option (List Value × List Char)
  | 0, _ => none
  | fuel + 1, cs =>
    match filler? (cs.length + 1) cs with
    | none => none
    | some (']' :: rest) => some ([], rest)
    | some cs =>
      match value? depth fuel cs with
      | none => none
      | some (v, rest) =>
        match filler? (rest.length + 1) rest with
        | some (',' :: rest) => (items? depth fuel rest).map fun more => (v :: more.1, more.2)
        | some (']' :: rest) => some ([v], rest)
        | _ => none

/-- The fields of a table between braces, at least one; no comma stands behind the last one. -/
def fields? (depth : Nat) : Nat → List Char → Items → Option (Items × List Char)
  | 0, _, _ => none
  | fuel + 1, cs, items =>
    match key? cs with
    | some (key, '=' :: rest) =>
      match value? depth fuel (blank rest) with
      | none => none
      | some (v, rest) =>
        match assign? key v items with
        | none => none
        | some items =>
          match blank rest with
          | ',' :: rest => fields? depth fuel rest items
          | '}' :: rest => some (items, rest)
          | _ => none
    | _ => none

end

/-! ## Documents -/

/-- What a header opens: a table, or one more element of an array of tables. -/
inductive Header where
  | table (path : List String)
  | element (path : List String)
deriving DecidableEq, Repr

/-- A header with the keys and values under it. -/
structure Section where
  header : Option Header
  entries : List (List String × Value)

/-- One line of a document that is not empty. -/
inductive Line where
  | header (h : Header)
  | entry (key : List String) (v : Value)

/-- A header up to the end of its line. -/
def header? : List Char → Option (Header × List Char)
  | '[' :: '[' :: cs =>
    match key? cs with
    | some (path, ']' :: ']' :: rest) => (lineEnd? rest).map fun rest => (.element path, rest)
    | _ => none
  | '[' :: cs =>
    match key? cs with
    | some (path, ']' :: rest) => (lineEnd? rest).map fun rest => (.table path, rest)
    | _ => none
  | _ => none

/-- A key with its value, up to the end of the line. -/
def entry? (cs : List Char) : Option ((List String × Value) × List Char) :=
  match key? cs with
  | some (key, '=' :: rest) =>
    match value? (maxDepth - 1) (2 * rest.length + 2) (blank rest) with
    | some (v, rest) => (lineEnd? rest).map fun rest => ((key, v), rest)
    | none => none
  | _ => none

/-- The lines of a document. -/
def lines? : Nat → List Char → Option (List Line)
  | 0, _ => none
  | fuel + 1, cs =>
    match blank cs with
    | [] => some []
    | '#' :: rest =>
      match comment ('#' :: rest) with
      | [] => some []
      | rest =>
        match newline? rest with
        | some rest => lines? fuel rest
        | none => none
    | '\n' :: rest => lines? fuel rest
    | '\r' :: rest =>
      match newline? ('\r' :: rest) with
      | some rest => lines? fuel rest
      | none => none
    | '[' :: rest =>
      match header? ('[' :: rest) with
      | some (h, rest) => (lines? fuel rest).map fun more => .header h :: more
      | none => none
    | cs =>
      match entry? cs with
      | some (e, rest) => (lines? fuel rest).map fun more => .entry e.1 e.2 :: more
      | none => none

/-- The lines of a document by section; the first section has no header. -/
def sections : List Line → Section × List Section
  | [] => ({ header := none, entries := [] }, [])
  | .entry key v :: rest =>
    let (first, others) := sections rest
    ({ first with entries := (key, v) :: first.entries }, others)
  | .header h :: rest =>
    let (first, others) := sections rest
    ({ header := none, entries := [] }, { first with header := some h } :: others)

/-- Adds every entry of a section to a table. -/
def fill? (entries : List (List String × Value)) (items : Items) : Option Items :=
  match entries with
  | [] => some items
  | (key, v) :: rest =>
    match assign? key v items with
    | some items => fill? rest items
    | none => none

/-- Adds a section to a document. A header may name a table that only longer headers have implied,
and no other table twice. -/
def addSection? (root : Items) (s : Section) : Option Items :=
  match s.header with
  | none => fill? s.entries root
  | some (.table path) =>
    match splitLast? path with
    | none => none
    | some (way, name) =>
      root.change? false way fun parent =>
        match parent.get? name with
        | none => (fill? s.entries []).map fun t => parent.set name (.table false false t)
        | some (.table true false inner) =>
          (fill? s.entries inner).map fun t => (parent.erase name).set name (.table false false t)
        | some _ => none
  | some (.element path) =>
    match splitLast? path with
    | none => none
    | some (way, name) =>
      root.change? false way fun parent =>
        match parent.get? name with
        | none => (fill? s.entries []).map fun t => parent.set name (.tables [t])
        | some (.tables elements) =>
          (fill? s.entries []).map fun t => parent.set name (.tables (elements ++ [t]))
        | some _ => none

/-- Adds every section to a document. -/
def build? (root : Items) : List Section → Option Items
  | [] => some root
  | s :: rest =>
    match addSection? root s with
    | some root => build? root rest
    | none => none

/-- A document without the byte-order mark that may stand in front of it. -/
def dropMark : List Char → List Char
  | '\ufeff' :: cs => cs
  | cs => cs

/-- The table of a document, or nothing if it is malformed or defines something twice. -/
def parse? (text : String) : Option Table :=
  let cs := dropMark text.toList
  match lines? (cs.length + 1) cs with
  | none => none
  | some lines =>
    let (first, others) := sections lines
    (build? [] (first :: others)).map toTable

end Toml
end StyleScan
