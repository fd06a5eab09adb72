import ShadowLint.NameTable
import ShadowLint.Toml.Value

/-!
# Building TOML tables

A document fills its tables piece by piece, and what it may still add to a table depends
on how the table came about.  A table that a header names is complete with that header's
own lines, though deeper headers may still add tables below it.  A table that only stands
on the way to one that a header names may get a header of its own later, unless a dotted key
leads through it before that.  A table that stands on the way to a dotted key may get further
dotted keys, but no header.

A written value, and so an inline table or array, is never added to.
-/

namespace ShadowLint.Toml

/-- How a table came about. -/
inductive Origin where
  /-- It stands on the way to a table that a header names. -/
  | implied
  /-- It stands on the way to a dotted key. -/
  | dotted
  /-- A header names it. -/
  | named
  deriving DecidableEq, Repr

/-- What stands under a key while a document is being read. -/
inductive Branch where
  | value (value : Value)
  | table (origin : Origin) (entries : List (String × Branch))
  /-- An array of tables that headers name; only the last can still grow. -/
  | tables (earlier : List (List (String × Branch))) (last : List (String × Branch))

instance : Inhabited Branch := ⟨.value default⟩

/-- The entries of a table that is being filled. -/
abbrev Branches := List (String × Branch)

/-- A dotted key: the keys on the way, and the key at its end. -/
structure KeyPath where
  way : List String
  last : String
  deriving DecidableEq, Repr

/-- All keys of a dotted key. -/
def KeyPath.keys (path : KeyPath) : List String := path.way ++ [path.last]

namespace Branches

/-- Changes the table at the end of a way, with the tables that are missing on the way made
anew.  A way of dotted keys does not lead through tables that headers name, and all tables
on it count as tables of dotted keys from then on. -/
def reach (byDots : Bool) (change : Origin → Branches → Option Branches) :
    List String → Origin → Branches → Option Branches
  | [], origin, entries => change origin entries
  | key :: way, _, entries =>
      match entries.lookup key with
      | none => do
          let origin := if byDots then .dotted else .implied
          let inner ← reach byDots change way origin []
          return insertEntry key (.table origin inner) entries
      | some (.table origin inner) =>
          if byDots && origin = .named then none
          else do
            let origin := if byDots then .dotted else origin
            let inner ← reach byDots change way origin inner
            return insertEntry key (.table origin inner) entries
      | some (.tables earlier last) => do
          let last ← reach byDots change way .named last
          return insertEntry key (.tables earlier last) entries
      | some (.value _) => none

/-- Puts a value under a dotted key.  The table that gets it must be the one that is being
filled, or one that dotted keys lead to. -/
def assign (path : KeyPath) (value : Value) (entries : Branches) : Option Branches :=
  reach (!path.way.isEmpty)
    (fun origin entries =>
      if !path.way.isEmpty && origin ≠ .dotted then none
      else
        match entries.lookup path.last with
        | none => some (insertEntry path.last (.value value) entries)
        | some _ => none)
    path.way .named entries

/-- Opens the table that a header names. -/
def openTable (path : KeyPath) (entries : Branches) : Option Branches :=
  reach false
    (fun _ entries =>
      match entries.lookup path.last with
      | none => some (insertEntry path.last (.table .named []) entries)
      | some (.table .implied inner) =>
          some (insertEntry path.last (.table .named inner) entries)
      | some _ => none)
    path.way .named entries

/-- Opens a further table of the array of tables that a header names. -/
def openElement (path : KeyPath) (entries : Branches) : Option Branches :=
  reach false
    (fun _ entries =>
      match entries.lookup path.last with
      | none => some (insertEntry path.last (.tables [] []) entries)
      | some (.tables earlier last) =>
          some (insertEntry path.last (.tables (earlier ++ [last]) []) entries)
      | some _ => none)
    path.way .named entries

/-- Puts a value under a dotted key of the table that the last header opened. -/
def assignBelow (header : List String) (path : KeyPath) (value : Value) (entries : Branches) :
    Option Branches :=
  reach false (fun _ entries => assign path value entries) header .named entries

end Branches

mutual

/-- What stands under a key in the finished document. -/
def Branch.close : Branch → Value
  | .value value => value
  | .table _ entries => .table (closeEntries entries)
  | .tables earlier last => .array (closeTables earlier ++ [.table (closeEntries last)])

/-- The entries of a table in the finished document. -/
def closeEntries : List (String × Branch) → List (String × Value)
  | [] => []
  | (key, branch) :: rest => (key, branch.close) :: closeEntries rest

/-- The tables of an array in the finished document. -/
def closeTables : List (List (String × Branch)) → List Value
  | [] => []
  | entries :: rest => .table (closeEntries entries) :: closeTables rest

end

end ShadowLint.Toml
