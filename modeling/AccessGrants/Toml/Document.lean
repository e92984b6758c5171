import AccessGrants.Toml.Value

/-!
TOML documents as a list of sections, and the table that they make. A key with
dots goes through tables that keys with dots have made, a header goes through
everything but complete tables, and a table has at most one header.
-/

namespace AccessGrants.Toml

structure Key where
  path : List String
  name : String
  deriving DecidableEq, Repr

structure Entry where
  key : Key
  value : Value
  deriving Repr

inductive Heading where
  | table (key : Key)
  | item (key : Key)
  deriving Repr

structure Section where
  heading : Heading
  entries : List Entry
  deriving Repr

/-- The entries before the first heading, and the sections. -/
structure Document where
  entries : List Entry
  sections : List Section
  deriving Repr

def changeLast (change : Entries → Option Entries) : List Value → Option (List Value)
  | [] => none
  | [.table origin entries] => (change entries).map fun changed => [.table origin changed]
  | item :: rest => (changeLast change rest).map fun changed => item :: changed

/-- Puts an entry into the entries of a table. The table that its dots lead to
has to be one that dots have made. -/
def put (name : String) (value : Value) : List String → Entries → Option Entries
  | [], entries => if (entries.get? name).isSome then none else some (entries.set name value)
  | step :: path, entries =>
    match entries.get? step with
    | none => (put name value path []).map fun inner => entries.set step (.table .dotted inner)
    | some (.table origin inner) =>
      if origin = .header || origin = .braces || (path.isEmpty && origin ≠ .dotted) then none
      else (put name value path inner).map fun changed => entries.set step (.table origin changed)
    | some (.array true items) =>
      if path.isEmpty then none
      else
        (changeLast (put name value path) items).map fun changed =>
          entries.set step (.array true changed)
    | some _ => none

def fill (lines : List Entry) (entries : Entries) : Option Entries :=
  lines.foldlM (fun entries line => put line.key.name line.value line.key.path entries) entries

/-- Changes the table that the path of a header leads to. -/
def descend (change : Entries → Option Entries) : List String → Entries → Option Entries
  | [], entries => change entries
  | step :: path, entries =>
    match entries.get? step with
    | none => (descend change path []).map fun inner => entries.set step (.table .passed inner)
    | some (.table origin inner) =>
      if origin = .braces then none
      else
        (descend change path inner).map fun changed => entries.set step (.table origin changed)
    | some (.array true items) =>
      (changeLast (descend change path) items).map fun changed =>
        entries.set step (.array true changed)
    | some _ => none

/-- Opens a table by its header: a new one, or one that headers have only
passed through. -/
def openTable (name : String) (lines : List Entry) (parent : Entries) : Option Entries :=
  let opened (entries : Entries) : Option Entries :=
    (fill lines entries).map fun filled => parent.set name (.table .header filled)
  match parent.get? name with
  | none => opened []
  | some (.table .passed entries) => opened entries
  | some _ => none

def addItem (name : String) (lines : List Entry) (parent : Entries) : Option Entries :=
  let added (items : List Value) : Option Entries :=
    (fill lines []).map fun filled =>
      parent.set name (.array true (items ++ [.table .header filled]))
  match parent.get? name with
  | none => added []
  | some (.array true items) => added items
  | some _ => none

def Section.apply (part : Section) (root : Entries) : Option Entries :=
  match part.heading with
  | .table key => descend (openTable key.name part.entries) key.path root
  | .item key => descend (addItem key.name part.entries) key.path root

/-- The table that a document makes, if none of its lines contradicts an
earlier one. -/
def Document.root? (document : Document) : Option Entries := do
  let root ← fill document.entries []
  document.sections.foldlM (fun root part => part.apply root) root

end AccessGrants.Toml
