import Mathlib.Data.List.Infix
import Counterpart.Import.Inference
import Counterpart.Import.Table
import Counterpart.Proofs.Field.Choices

/-!
This module contains that the inference of columns is monotone: a column that fits a field keeps
fitting it when more rows are looked at, when choices are created, and when the field is given more
choices.
-/

namespace Counterpart

namespace Field

variable {f g : Field} {a b : Bool} {j : Json}

theorem textFits_mono {p q : String → Bool} (hpq : ∀ s, p s = true → q s = true)
    (h : textFits p j = true)
    : textFits q j = true := by
  unfold textFits at h ⊢
  rw [Option.any_eq_true] at h ⊢
  rcases h with ⟨s, hs, hp⟩
  exact ⟨s, hs, hpq s hp⟩

/-- A field takes what one of its type takes that has fewer names for its choices and does not
create choices where the field does not. -/
theorem fits_mono (hkind : g.kind = f.kind) (hcreate : a = true → b = true)
    (hnames : ∀ s, f.choices.namesChoice s = true → g.choices.namesChoice s = true)
    (h : f.fits a j = true)
    : g.fits b j = true := by
  unfold fits at h ⊢
  rw [hkind]
  cases hf : f.kind with
  | select | radio =>
    rw [hf] at h
    apply textFits_mono _ h
    intro s hs
    rw [Bool.or_eq_true] at hs ⊢
    exact hs.imp hcreate (hnames s)
  | multiselect =>
    rw [hf] at h
    simp only [Option.any_eq_true, Bool.and_eq_true, Bool.or_eq_true, List.all_eq_true] at h ⊢
    rcases h with ⟨tokens, htokens, hne, hall⟩
    exact ⟨tokens, htokens, hne, hall.imp hcreate fun hall t ht => hnames t (hall t ht)⟩
  | text | textarea | file | unknown => rfl
  | email | number | checkbox | date | url | phone | button =>
    rw [hf] at h
    exact h

theorem fits_append_choices (extra : Choices) (h : f.fits a j = true)
    : { f with choices := f.choices ++ extra }.fits a j = true := by
  refine fits_mono (f := f) (g := { f with choices := f.choices ++ extra }) rfl id ?_ h
  intro s hs
  rw [Choices.namesChoice_append, hs, Bool.true_or]

end Field

theorem prefix_eraseDups {ss ts : List String} (h : ss <+: ts) : ss.eraseDups <+: ts.eraseDups := by
  rcases h with ⟨more, rfl⟩
  rw [List.eraseDups_append]
  exact List.prefix_append _ _

theorem prefix_range {n m : Nat} (h : n ≤ m) : List.range n <+: List.range m := by
  rcases Nat.exists_eq_add_of_le h with ⟨k, rfl⟩
  rw [List.range_add]
  exact List.prefix_append _ _

namespace Preview

variable {p q : Preview} {f g : Field} {a b : Bool} {column : String}

/-- Whether a preview looks further into the data of another one. -/
structure Extends (p q : Preview) : Prop where
  columns : p.columns <+: q.columns
  rows : p.rows <+: q.rows

theorem Extends.refl (p : Preview) : p.Extends p := ⟨List.prefix_refl _, List.prefix_refl _⟩

theorem extends_ofRows (rows : List Row) {n m : Nat} (h : n ≤ m)
    : (ofRows rows n).Extends (ofRows rows m) := by
  have hrows : rows.take n <+: rows.take m := List.take_prefix_take_left h
  exact ⟨prefix_eraseDups (List.IsPrefix.flatMap hrows KeyMap.keys), hrows⟩

theorem exists_extends_ofColumns? {columns : List Column} {n m : Nat} (h : n ≤ m)
    (hp : ofColumns? columns n = some p)
    : ∃ q, ofColumns? columns m = some q ∧ p.Extends q := by
  unfold ofColumns? at hp ⊢
  split at hp
  . next htable =>
    rw [if_pos htable]
    simp only [Option.bind_eq_bind, Option.bind_eq_some_iff, Option.pure_def,
      Option.some_inj] at hp ⊢
    rcases hp with ⟨read, hread, rfl⟩
    refine ⟨_, ⟨read, hread, rfl⟩, List.prefix_refl _, ?_⟩
    apply List.IsPrefix.map
    apply prefix_range
    exact Nat.le_min.2 ⟨Nat.min_le_left _ _, (Nat.min_le_right _ _).trans h⟩
  . cases hp

theorem Extends.values (h : p.Extends q) (column : String)
    : p.values column <+: q.values column :=
  (h.rows.filterMap _).filter _

theorem columnFits_mono (h : p.Extends q) (hfits : ∀ j, f.fits a j = true → g.fits b j = true)
    (hcolumn : p.columnFits a f column = true)
    : q.columnFits b g column = true := by
  unfold columnFits at hcolumn ⊢
  rw [List.any_eq_true] at hcolumn ⊢
  rcases hcolumn with ⟨j, hj, hf⟩
  exact ⟨j, (h.values column).mem hj, hfits j hf⟩

theorem compatibleColumns_sublist (h : p.Extends q)
    (hfits : ∀ j, f.fits a j = true → g.fits b j = true)
    : (p.compatibleColumns a f).Sublist (q.compatibleColumns b g) := by
  have hold : (p.compatibleColumns a f).Sublist (q.columns.filter (p.columnFits a f)) :=
    h.columns.sublist.filter _
  apply hold.trans
  apply List.monotone_filter_right
  intro column
  exact columnFits_mono h hfits

/-- Whether all that inference finds in one preview it finds in another as well, in order. -/
structure FoundIn (p q : Preview) (create : Bool) (f : Field) : Prop where
  column : ∀ column, p.columnFits create f column = true → q.columnFits create f column = true
  columns : (p.compatibleColumns create f).Sublist (q.compatibleColumns create f)

theorem Extends.foundIn (h : p.Extends q) (create : Bool) (f : Field) : FoundIn p q create f :=
  ⟨fun _ => columnFits_mono h fun _ => id, compatibleColumns_sublist h fun _ => id⟩

/-- What inference finds in the first rows of an upload, or of a table, it finds in more of them. A
column that fits a field fits it also if choices are created, and if choices are appended to the
field. -/
theorem inference_monotone (f : Field) (create : Bool)
    : (∀ rows n m, n ≤ m → FoundIn (ofRows rows n) (ofRows rows m) create f)
      ∧ (∀ columns n m p, n ≤ m → ofColumns? columns n = some p →
        ∃ q, ofColumns? columns m = some q ∧ FoundIn p q create f)
      ∧ (∀ p column, columnFits p false f column = true → columnFits p true f column = true)
      ∧ (∀ p column extra, columnFits p create f column = true →
        columnFits p create { f with choices := f.choices ++ extra } column = true) := by
  refine ⟨?_, ?_, ?_, ?_⟩
  . intro rows n m h
    exact (extends_ofRows rows h).foundIn create f
  . intro columns n m p h hp
    rcases exists_extends_ofColumns? h hp with ⟨q, hq, hextends⟩
    exact ⟨q, hq, hextends.foundIn create f⟩
  . intro p column
    exact columnFits_mono (Extends.refl p) fun j => Field.fits_mono rfl (fun _ => rfl) fun _ => id
  . intro p column extra
    exact columnFits_mono (Extends.refl p) fun j => Field.fits_append_choices extra

theorem inference_monotone_stage
    : let stage : Field :=
        { key := "stage", label := "Stage", kind := .select, choices := [⟨"Seed", "s"⟩] }
      let rows : List Row :=
        [.ofList [("Stage", .string " seed ")],
          .ofList [("Round", .string "S"), ("Stage", .string "Growth")]]
      let table : List Column := [⟨"Stage", [.text "Growth", .text "Seed"]⟩]
      (ofRows rows 1).compatibleColumns false stage = ["Stage"]
        ∧ FoundIn (ofRows rows 1) (ofRows rows 2) false stage
        ∧ (ofRows rows 2).compatibleColumns false stage = ["Stage", "Round"]
        ∧ (∃ p q, ofColumns? table 1 = some p ∧ ofColumns? table 2 = some q
          ∧ FoundIn p q true stage)
        ∧ (ofRows rows 1).columnFits true stage "Stage" = true
        ∧ (ofRows rows 1).columnFits false
          { stage with choices := stage.choices ++ [⟨"Growth", "g"⟩] } "Stage" = true := by
  intro stage rows table
  rcases inference_monotone stage false with ⟨hrows, _, hcreate, hchoices⟩
  have hfits : (ofRows rows 1).columnFits false stage "Stage" = true := by decide +kernel
  refine ⟨by decide +kernel, hrows rows 1 2 (by decide), by decide +kernel, ?_,
    hcreate _ _ hfits, hchoices _ _ _ hfits⟩
  have hsome : (ofColumns? table 1).isSome = true := by decide +kernel
  rcases Option.isSome_iff_exists.1 hsome with ⟨p, hp⟩
  rcases (inference_monotone stage true).2.1 table 1 2 p (by decide) hp with ⟨q, hq, hfound⟩
  exact ⟨p, q, hp, hq, hfound⟩

end Preview

end Counterpart
