import Mathlib.Data.List.Find
import Mathlib.Data.List.Forall2
import Counterpart.Proofs.Import.Growth
import Counterpart.Proofs.Import.Importer
import Counterpart.Proofs.Session.Import

/-!
This module contains that an import reads nothing but the mapped columns. An upload is looked at in
three places: when the columns are checked, when choices are discovered, and when rows are
transformed. Uploads that hold the same in the mapped columns cannot be told apart in any of them.
-/

namespace Counterpart

open Import

def Row.Agrees (mapping : ColumnMapping) (row other : Row) : Prop :=
  ∀ key column, mapping.Maps key column → KeyMap.get? row column = KeyMap.get? other column

variable {mapping : ColumnMapping} {row other : Row} {rows more : List Row} {column : String}

theorem Row.agrees_iff
    : row.Agrees mapping other
        ↔
      ∀ e ∈ mapping.mapped, KeyMap.get? row e.2 = KeyMap.get? other e.2 := by
  unfold Row.Agrees
  simp only [Prod.forall, ColumnMapping.mem_mapped_iff]

instance : Decidable (row.Agrees mapping other) := decidable_of_iff _ Row.agrees_iff.symm

namespace Row.Agrees

theorem cell?_eq (h : row.Agrees mapping other) (f : Field)
    : row.cell? mapping f = other.cell? mapping f := by
  unfold cell?
  cases hcolumn : mapping.columnFor? f.key with
  | none => rfl
  | some column =>
    have heq := h f.key column (ColumnMapping.columnFor?_eq_some_iff.1 hcolumn)
    simp only [Option.bind_eq_bind, Option.bind_some, heq]

theorem transform_eq (h : row.Agrees mapping other) (fields : List Field) (create : Bool)
    : row.transform fields mapping create = other.transform fields mapping create := by
  unfold transform
  simp only [h.cell?_eq]

end Row.Agrees

theorem map_eq_map_of_agrees (h : List.Forall₂ (Row.Agrees mapping) rows more) {f g : Row → α}
    (hfg : ∀ row other, row.Agrees mapping other → f row = g other)
    : rows.map f = more.map g := by
  rw [← List.forall₂_eq_eq_eq, List.forall₂_map_left_iff, List.forall₂_map_right_iff]
  exact h.imp hfg

theorem map_get?_of_agrees (h : List.Forall₂ (Row.Agrees mapping) rows more) {key : String}
    (hmaps : mapping.Maps key column)
    : rows.map (KeyMap.get? · column) = more.map (KeyMap.get? · column) := by
  apply map_eq_map_of_agrees h
  intro row other hagrees
  exact hagrees key column hmaps

namespace Import

theorem filterMap_get?_eq_filterMap_map (rows : List Row) (column : String)
    : rows.filterMap (KeyMap.get? · column)
        =
      (rows.map (KeyMap.get? · column)).filterMap id := by
  rw [List.filterMap_map]
  rfl

theorem cells_of_agrees (h : List.Forall₂ (Row.Agrees mapping) rows more) (f : Field)
    : cells rows mapping f = cells more mapping f := by
  unfold cells
  cases hcolumn : mapping.columnFor? f.key with
  | none => rfl
  | some column =>
    have heq := map_get?_of_agrees h (ColumnMapping.columnFor?_eq_some_iff.1 hcolumn)
    dsimp only
    rw [filterMap_get?_eq_filterMap_map, heq, ← filterMap_get?_eq_filterMap_map]

theorem discover_of_agrees (h : List.Forall₂ (Row.Agrees mapping) rows more) (fields : List Field)
    : discover fields rows mapping = discover fields more mapping := by
  unfold discover
  congr 2
  funext f
  rw [discovered?_eq, discovered?_eq, cells_of_agrees h]

end Import

theorem Preview.hasColumn_ofRows_eq_any (rows : List Row) (column : String)
    : (ofRows rows rows.length).hasColumn column
        =
      (rows.map (KeyMap.get? · column)).any Option.isSome := by
  rw [Bool.eq_iff_iff, hasColumn_ofRows_iff]
  simp [Option.isSome_iff_exists]

namespace Importer

variable {i : Importer}

theorem ensureColumns_of_agrees (h : List.Forall₂ (Row.Agrees i.mapping) rows more)
    : i.ensureColumns (.ofRows rows rows.length) = i.ensureColumns (.ofRows more more.length) := by
  unfold ensureColumns
  rw [List.find?_congr]
  rintro ⟨key, column⟩ hmem
  dsimp only
  have heq := map_get?_of_agrees h (ColumnMapping.mem_mapped_iff.1 hmem)
  rw [Preview.hasColumn_ofRows_eq_any, heq, ← Preview.hasColumn_ofRows_eq_any]

theorem discovered_of_agrees (h : List.Forall₂ (Row.Agrees i.mapping) rows more)
    : i.discovered rows = i.discovered more := by
  apply discover_of_agrees h

theorem verdicts_of_agrees (h : List.Forall₂ (Row.Agrees i.mapping) rows more)
    : i.verdicts rows = i.verdicts more := by
  have htarget : i.targetFields rows = i.targetFields more := by
    unfold targetFields
    rw [discovered_of_agrees h]
  unfold verdicts
  rw [htarget]
  congr 1
  apply map_eq_map_of_agrees h
  intro row other hagrees
  unfold importRow
  rw [hagrees.transform_eq]

theorem run_of_agrees (h : List.Forall₂ (Row.Agrees i.mapping) rows more)
    : i.run rows = i.run more := by
  unfold run
  rw [verdicts_of_agrees h, discovered_of_agrees h]

end Importer

namespace Session

theorem importer_of_agrees (h : List.Forall₂ (Row.Agrees mapping) rows more) (s : Session)
    (side : Side) (create : Bool)
    : s.importer side rows mapping create = s.importer side more mapping create := by
  unfold importer
  cases hi : Importer.of (s.schema side).fields mapping create with
  | error e => rfl
  | ok i =>
    have hmapping : i.mapping = mapping := by
      rw [Importer.eq_of_of_eq_ok hi]
    have hempty : rows.isEmpty = more.isEmpty := by
      rw [Bool.eq_iff_iff, List.isEmpty_iff_length_eq_zero, List.isEmpty_iff_length_eq_zero,
        h.length_eq]
    rw [← hmapping] at h
    dsimp only
    rw [hempty, Importer.ensureColumns_of_agrees h]

/-- Imports of rows that hold the same in the mapped columns end in the same way, be it with the
same refusal or with the same outcome, and leave the same session. -/
theorem importRows_of_agrees (h : List.Forall₂ (Row.Agrees mapping) rows more) (s : Session)
    (side : Side) (create : Bool)
    : s.importRows side rows mapping create = s.importRows side more mapping create
        ∧ s.perform (.importRows side rows mapping create)
            =
          s.perform (.importRows side more mapping create) := by
  have heq : s.importRows side rows mapping create = s.importRows side more mapping create := by
    unfold importRows
    rw [importer_of_agrees h]
    cases hi : s.importer side more mapping create with
    | error e => rfl
    | ok i =>
      rw [← mapping_of_importer_eq_ok hi] at h
      dsimp only
      rw [Importer.run_of_agrees h]
  refine ⟨heq, ?_⟩
  simp only [perform]
  rw [heq]

theorem importRows_of_agrees_notes
    : let email : Field := { key := "email", label := "Email", kind := .email, required := true }
      let notes : Field := { key := "notes", label := "Notes", kind := .text }
      let tags : Field := { key := "tags", label := "Tags", kind := .multiselect }
      let mapping : ColumnMapping :=
        .ofList [("email", "Email"), ("notes", "none"), ("tags", "Tags")]
      let rows : List Row :=
        [.ofList [("Email", .string "ada@acme.io"), ("Tags", .string "AI"),
            ("none", .string "met in May")],
          .ofList [("Tags", .string "ai"), ("notes", .string "no address")]]
      let more : List Row :=
        [.ofList [("Email", .string "ada@acme.io"), ("Tags", .string "AI"), ("Stage", .null)],
          .ofList [("Tags", .string "ai"), ("email", .string "eve@acme.io")]]
      List.Forall₂ (Row.Agrees mapping) rows more ∧ rows ≠ more
        ∧ ∃ s t : Session, s.Reachable ∧ (s.schema .investor).fields = [email, notes, tags]
          ∧ s.importRows .investor rows mapping true
              =
            s.importRows .investor more mapping true
          ∧ s.importRows .investor more mapping true
              =
            .ok ({
                submissions := [.object [("email", .string "ada@acme.io"),
                  ("tags", Json.strings ["AI"])]],
                newChoices := some (.ofList [("tags", [.ofValue "AI"])]),
                rejected := [{ row := 1, issues := .ofList [("email", .required)] }] },
              t)
          ∧ s.perform (.importRows .investor rows mapping true) = t := by
  intro email notes tags mapping rows more
  let s : Session :=
    { settings := {}, founder := .ofSchema .empty,
      investor := .ofSchema ⟨[email, notes, tags], by decide +kernel⟩, criteria := .empty }
  let t : Session := s.setForm .investor
    (.ofSchema ⟨[email, notes, tags.grow [.ofValue "AI"]], by decide +kernel⟩)
  have hagrees : List.Forall₂ (Row.Agrees mapping) rows more := by
    apply List.Forall₂.cons
    . decide +kernel
    . apply List.Forall₂.cons
      . decide +kernel
      . exact .nil
  have ⟨himport, hperform⟩ := importRows_of_agrees hagrees s .investor true
  refine ⟨hagrees, by decide +kernel, s, t, .start rfl _ {}, rfl, himport, by decide +kernel, ?_⟩
  rw [hperform]
  decide +kernel

end Session

end Counterpart
