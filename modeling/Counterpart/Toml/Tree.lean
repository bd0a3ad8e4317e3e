import Counterpart.Numeric.Binary

/-!
This module contains the trees that settings documents denote, and how a tree grows by the
statements of a document. A table may be opened once by a header; tables that a header or a dotted
key passes through come into being with it, and can only be extended the way they came.
-/

namespace Counterpart.Toml

open Numeric

/-- How a table came into being. -/
inductive Origin where
  | header
  /-- By a header of a table inside it. -/
  | implied
  | dotted
  | inline
  deriving DecidableEq, Repr

inductive Node where
  | string (s : String)
  | integer (n : Int)
  | float (x : Double)
  | boolean (b : Bool)
  | datetime
  /-- What has the form of an integer or a float, but denotes none that can be held. -/
  | noNumber
  | list (items : List Node)
  /-- Tables collected by repeated headers, in order. -/
  | tables (items : List (List (String × Node)))
  | table (origin : Origin) (entries : List (String × Node))

namespace Node

mutual

def isSound : Node → Bool
  | .noNumber => false
  | .list items => areSound items
  | .tables items => tablesSound items
  | .table _ entries => entriesSound entries
  | _ => true

def areSound : List Node → Bool
  | [] => true
  | n :: ns => isSound n && areSound ns

def tablesSound : List (List (String × Node)) → Bool
  | [] => true
  | entries :: rest => entriesSound entries && tablesSound rest

def entriesSound : List (String × Node) → Bool
  | [] => true
  | (_, n) :: rest => isSound n && entriesSound rest

end

end Node

abbrev Entries := List (String × Node)

namespace Entries

def get? (es : Entries) (key : String) : Option Node := es.lookup key

def set (es : Entries) (key : String) (node : Node) : Entries :=
  match es with
  | [] => [(key, node)]
  | (k, n) :: rest => if k = key then (k, node) :: rest else (k, n) :: set rest key node

end Entries

def modifyLast? (f : α → Option α) : List α → Option (List α)
  | [] => none
  | [a] => (f a).map ([·])
  | a :: as => (modifyLast? f as).map (a :: ·)

def descend (dotted : Bool) (change : Origin → Entries → Option Entries)
    : (path : List String) → Origin → Entries → Option Entries
  | [], origin, es => change origin es
  | key :: path, _, es =>
    match es.get? key with
    | none =>
      let origin := if dotted then .dotted else .implied
      (descend dotted change path origin []).map fun inner => es.set key (.table origin inner)
    | some (.table origin inner) =>
      -- A path of dotted keys must not enter a table that has a header, and no path an inline table.
      if origin = .inline ∨ (dotted ∧ origin = .header) then
        none
      else
        (descend dotted change path origin inner).map fun inner =>
          es.set key (.table origin inner)
    -- Of collected tables the last is entered.
    | some (.tables items) =>
      (modifyLast? (descend dotted change path .header) items).map fun items =>
        es.set key (.tables items)
    | some _ => none

def openTable (key : String) (_ : Origin) (es : Entries) : Option Entries :=
  match es.get? key with
  | none => some (es.set key (.table .header []))
  | some (.table .implied inner) => some (es.set key (.table .header inner))
  | some _ => none

def appendTable (key : String) (_ : Origin) (es : Entries) : Option Entries :=
  match es.get? key with
  | none => some (es.set key (.tables [[]]))
  | some (.tables items) => some (es.set key (.tables (items ++ [[]])))
  | some _ => none

def addEntry (plain : Bool) (key : String) (node : Node) (origin : Origin) (es : Entries)
    : Option Entries :=
  -- An entry by a dotted key belongs into a table of dotted keys, one by a plain key does not.
  if (origin = .dotted) = plain then
    none
  else
    match es.get? key with
    | none => some (es.set key node)
    | some _ => none

def splitPath : List String → Option (List String × String)
  | [] => none
  | [key] => some ([], key)
  | key :: path => (splitPath path).map fun (path, last) => (key :: path, last)

def addPair (path : List String) (node : Node) (origin : Origin) (es : Entries)
    : Option Entries := do
  let (path, key) ← splitPath path
  descend true (addEntry path.isEmpty key node) path origin es

inductive Statement where
  | header (path : List String)
  | tablesHeader (path : List String)
  | pair (path : List String) (node : Node)

structure Document where
  entries : Entries := []
  current : List String := []

namespace Document

def inCurrent (change : Origin → Entries → Option Entries)
    : (path : List String) → Entries → Option Entries
  | [], es => change .header es
  | key :: path, es =>
    match es.get? key with
    | some (.table origin inner) =>
      (inCurrent change path inner).map fun inner => es.set key (.table origin inner)
    | some (.tables items) =>
      (modifyLast? (inCurrent change path) items).map fun items => es.set key (.tables items)
    | _ => none

def apply (d : Document) : Statement → Option Document
  | .header path => do
    let (outer, key) ← splitPath path
    let entries ← descend false (openTable key) outer .header d.entries
    return { entries, current := path }
  | .tablesHeader path => do
    let (outer, key) ← splitPath path
    let entries ← descend false (appendTable key) outer .header d.entries
    return { entries, current := path }
  | .pair path node => do
    let entries ← inCurrent (addPair path node) d.current d.entries
    return { d with entries }

def ofStatements (statements : List Statement) : Option Document :=
  statements.foldlM apply {}

end Document

end Counterpart.Toml
