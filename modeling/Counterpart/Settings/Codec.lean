import Counterpart.Settings.Basic
import Counterpart.Toml.Reader
import Counterpart.Toml.Writer

/-!
This module contains the stored form of settings, a document with a table for each group. What is
absent has its default, and what is not known is ignored.
-/

namespace Counterpart

open Numeric Toml

abbrev Toml.Decoder (α : Type) := Node → Option α

namespace Toml.Decoder

def boolean : Decoder Bool
  | .boolean b => some b
  | _ => none

def string : Decoder String
  | .string s => some s
  | _ => none

def natural : Decoder Nat
  | .integer n => if 0 ≤ n ∧ n ≤ 0xFFFFFFFFFFFFFFFF then some n.toNat else none
  | _ => none

def float (f : Format) : Decoder (Binary f)
  | .float x => some (x.convert f)
  | .integer n => if IsWord n then some (.ofInt f n) else none
  | _ => none

/-- A name out of a list; a table with the name as its one key and nothing in it also counts. -/
def choice (variants : List (String × α)) : Decoder α
  | .string name => variants.lookup name
  | .table _ [(name, .table _ [])] => variants.lookup name
  | .table _ [(name, .list [])] => variants.lookup name
  | _ => none

def named (names : List String) (entries : Entries) : Option Entries :=
  -- Members with other names are not read, but they must be sound.
  if entries.all fun (name, node) => names.contains name || node.isSound then
    some entries
  else
    none

def members (names : List String) : Decoder Entries
  | .table _ entries => named names entries
  -- A date or a time has a shape of its own, in which no record finds a member.
  | .datetime => some []
  | .list items => some (names.zip items)
  | .tables items => some (names.zip (items.map (.table .header)))
  | _ => none

def optional (entries : Entries) (name : String) (d : Decoder α) (absent : α) : Option α :=
  match entries.get? name with
  | some node => d node
  | none => some absent

end Toml.Decoder

namespace LogFormat

def names : List (String × LogFormat) :=
  [("pretty", .pretty), ("compact", .compact), ("json", .json)]

def name : LogFormat → String
  | .pretty => "pretty"
  | .compact => "compact"
  | .json => "json"

end LogFormat

open Toml.Decoder

namespace ImportSettings

def decoder : Toml.Decoder ImportSettings := fun node => do
  let es ← members ["preview_rows", "create_options", "min_suggestion_confidence"] node
  let absent : ImportSettings := {}
  let previewRows ← optional es "preview_rows" natural absent.previewRows
  let createChoices ← optional es "create_options" boolean absent.createChoices
  let minConfidence ←
    optional es "min_suggestion_confidence" (float single) absent.minConfidence
  return { previewRows, createChoices, minConfidence }

def write (s : ImportSettings) : String :=
  "[import]\npreview_rows = " ++ toString s.previewRows
    ++ "\ncreate_options = " ++ writeBool s.createChoices
    ++ "\nmin_suggestion_confidence = " ++ writeFloat s.minConfidence ++ "\n"

end ImportSettings

namespace CriteriaSettings

def decoder : Toml.Decoder CriteriaSettings := fun node => do
  let es ← members ["default_weight"] node
  let defaultWeight ← optional es "default_weight" (fun n => (float double n).map some) none
  return { defaultWeight }

def write (s : CriteriaSettings) : String :=
  "[criteria]\n" ++
    match s.defaultWeight with
    | some w => "default_weight = " ++ writeFloat w ++ "\n"
    | none => ""

end CriteriaSettings

namespace LoggingSettings

def decoder : Toml.Decoder LoggingSettings := fun node => do
  let es ← members ["level", "format", "file", "log_data"] node
  let absent : LoggingSettings := {}
  let level ← optional es "level" string absent.level
  let format ← optional es "format" (choice LogFormat.names) absent.format
  let file ← optional es "file" (fun n => (string n).map some) absent.file
  let logData ← optional es "log_data" boolean absent.logData
  return { level, format, file, logData }

def write (s : LoggingSettings) : String :=
  "[logging]\nlevel = " ++ writeString s.level
    ++ "\nformat = " ++ writeString s.format.name ++ "\n"
    ++ (match s.file with
      | some file => "file = " ++ writeString file ++ "\n"
      | none => "")
    ++ "log_data = " ++ writeBool s.logData ++ "\n"

end LoggingSettings

namespace Settings

def ofText? (text : String) : Option Settings := do
  let es ← named ["import", "criteria", "logging"] (← Toml.ofText? text)
  let imports ← optional es "import" ImportSettings.decoder {}
  let criteria ← optional es "criteria" CriteriaSettings.decoder {}
  let logging ← optional es "logging" LoggingSettings.decoder {}
  return { imports, criteria, logging }

def write (s : Settings) : String :=
  s.imports.write ++ "\n" ++ s.criteria.write ++ "\n" ++ s.logging.write

end Settings

end Counterpart
