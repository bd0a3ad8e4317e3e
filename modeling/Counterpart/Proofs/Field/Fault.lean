import Mathlib.Data.List.Perm.Basic
import Counterpart.Proofs.Field.Choices
import Counterpart.Proofs.Field.Schema
import Counterpart.Proofs.Text.Trim

/-!
This module contains which lists of fields are schemas and what is said against the others: the fault of
the first field that has one, where a repeated key is a fault of the field that repeats it.
-/

namespace Counterpart

open Numeric

/-- A search along a list that remembers the names of what it has passed finds something at the first
place where there is something to find, and it has passed all names before that place. -/
theorem search_eq_some_iff {α ε : Type} {search : List String → List α → Option ε}
    (name : α → String) (look : List String → α → Option ε) (hnil : ∀ seen, search seen [] = none)
    (hcons : ∀ seen a as, search seen (a :: as) = (look seen a).or (search (name a :: seen) as))
    {seen : List String} {as : List α} {e : ε}
    : search seen as = some e
        ↔
      ∃ before a after, as = before ++ a :: after ∧ search seen before = none
        ∧ look ((before.map name).reverse ++ seen) a = some e := by
  -- What is passed joins `seen`, so the names before the place stand there in reverse.
  induction as generalizing seen with
  | nil => simp [hnil]
  | cons b as ih =>
    rw [hcons, Option.or_eq_some_iff, ih]
    constructor
    . rintro (hfound | ⟨hnone, before, a, after, rfl, hbefore, hfound⟩)
      . exact ⟨[], b, as, rfl, hnil seen, hfound⟩
      . refine ⟨b :: before, a, after, rfl, ?_, ?_⟩
        . rw [hcons, hnone, hbefore, Option.or_none]
        . simpa using hfound
    . rintro ⟨before, a, after, hsplit, hbefore, hfound⟩
      cases before with
      | nil =>
        cases hsplit
        exact .inl hfound
      | cons c before =>
        cases hsplit
        rw [hcons, Option.or_eq_none_iff] at hbefore
        refine .inr ⟨hbefore.1, before, a, after, rfl, hbefore.2, ?_⟩
        simpa using hfound

namespace Choices

variable {cs : Choices} {value : String}

def Repeats (cs : Choices) (value : String) : Prop :=
  ∃ before c after, cs = before ++ c :: after ∧ (values before).Nodup ∧ c.value ∈ values before
    ∧ c.value = value

theorem duplicateValue?_eq_some_iff : cs.duplicateValue? = some value ↔ cs.Repeats value := by
  have hcons (seen : List String) (c : Choice) (cs : List Choice)
      : duplicateValue?.go seen (c :: cs)
          =
        (if c.value ∈ seen then some c.value else none).or
          (duplicateValue?.go (c.value :: seen) cs) := by
    conv => lhs; unfold duplicateValue?.go
    split
    . rfl
    . rfl
  unfold duplicateValue? Repeats
  rw [search_eq_some_iff Choice.value _ (fun _ => rfl) hcons]
  simp [duplicateValue?_go_eq_none_iff, values]

end Choices

/-- What is said against a field that stands after fields with the given keys. Of several faults the key
counts before the choices and these before the bounds. -/
inductive Field.Blamed (seen : List String) (f : Field) : SchemaError → Prop where
  | emptyKey (hkey : Text.trim f.key = "") : Blamed seen f (.emptyKey f.label)
  | duplicateKey (hkey : Text.trim f.key ≠ "") (hseen : f.key ∈ seen)
    : Blamed seen f (.duplicateKey f.key)
  | duplicateChoice (hkey : Text.trim f.key ≠ "") (hseen : f.key ∉ seen) {value : String}
    (hvalue : f.choices.Repeats value)
    : Blamed seen f (.duplicateChoice f.key value)
  | invertedBounds (hkey : Text.trim f.key ≠ "") (hseen : f.key ∉ seen)
    (hvalues : f.choices.values.Nodup) {b : Bounds} (hbounds : f.bounds = some b)
    {min max : Double} (hmin : b.min = some min) (hmax : b.max = some max)
    (hlt : max.lt min = true)
    : Blamed seen f (.invertedBounds f.key min max)

theorem Bounds.inverted?_eq_some_iff {b : Bounds} {min max : Double}
    : b.inverted? = some (min, max)
        ↔
      b.min = some min ∧ b.max = some max ∧ max.lt min = true := by
  unfold inverted?
  split
  . next hmin hmax => grind
  . next h => grind

namespace Field

variable {f : Field} {seen : List String} {e : SchemaError}

theorem fault?_eq_some_iff : f.fault? seen = some e ↔ f.Blamed seen e := by
  have hblank : Text.isBlankText f.key = true ↔ Text.trim f.key = "" := Text.trim_eq_empty_iff.symm
  unfold fault?
  simp only [hblank]
  constructor
  . intro h
    split at h
    . next hkey =>
      cases h
      exact .emptyKey hkey
    . next hkey =>
      split at h
      . next hseen =>
        cases h
        exact .duplicateKey hkey hseen
      . next hseen =>
        split at h
        . next value hvalue =>
          cases h
          exact .duplicateChoice hkey hseen (Choices.duplicateValue?_eq_some_iff.1 hvalue)
        . next hnone =>
          rcases Option.map_eq_some_iff.1 h with ⟨⟨min, max⟩, hinverted, rfl⟩
          rcases Option.bind_eq_some_iff.1 hinverted with ⟨b, hbounds, hb⟩
          rcases Bounds.inverted?_eq_some_iff.1 hb with ⟨hmin, hmax, hlt⟩
          exact .invertedBounds hkey hseen (Choices.duplicateValue?_eq_none_iff.1 hnone) hbounds
            hmin hmax hlt
  . intro h
    cases h with
    | emptyKey hkey => rw [if_pos hkey]
    | duplicateKey hkey hseen => rw [if_neg hkey, if_pos hseen]
    | duplicateChoice hkey hseen hvalue =>
      rw [if_neg hkey, if_neg hseen, Choices.duplicateValue?_eq_some_iff.2 hvalue]
    | invertedBounds hkey hseen hvalues hbounds hmin hmax hlt =>
      rw [if_neg hkey, if_neg hseen, Choices.duplicateValue?_eq_none_iff.2 hvalues, hbounds,
        Option.bind_some, Bounds.inverted?_eq_some_iff.2 ⟨hmin, hmax, hlt⟩]
      rfl

theorem fault?_congr {other : List String} (h : f.key ∈ seen ↔ f.key ∈ other)
    : f.fault? seen = f.fault? other := by
  unfold fault?
  simp only [h]

end Field

theorem firstFault?_eq_some_iff {fields : List Field} {e : SchemaError}
    : firstFault? [] fields = some e
        ↔
      ∃ before f after, fields = before ++ f :: after ∧ firstFault? [] before = none
        ∧ f.Blamed (before.map Field.key) e := by
  have hcons (seen : List String) (f : Field) (fs : List Field)
      : firstFault? seen (f :: fs) = (f.fault? seen).or (firstFault? (f.key :: seen) fs) := by
    conv => lhs; unfold firstFault?
    cases f.fault? seen with
    | some e => rfl
    | none => rfl
  rw [search_eq_some_iff Field.key (fun seen f => f.fault? seen) (fun _ => rfl) hcons]
  have hseen (before : List Field) (f : Field)
      : f.fault? ((before.map Field.key).reverse ++ []) = f.fault? (before.map Field.key) := by
    apply Field.fault?_congr
    simp
  simp only [hseen, Field.fault?_eq_some_iff]

structure WellFormed (fields : List Field) : Prop where
  keysNotBlank : ∀ f ∈ fields, Text.trim f.key ≠ ""
  keys : (fields.map Field.key).Nodup
  choices : ∀ f ∈ fields, f.choices.values.Nodup
  bounds : ∀ f ∈ fields, ∀ b, f.bounds = some b →
    ∀ min max, b.min = some min → b.max = some max → ¬ max.lt min = true

namespace WellFormed

variable {fields others : List Field}

theorem iff_sound
    : WellFormed fields ↔ (∀ f ∈ fields, f.Sound) ∧ (fields.map Field.key).Nodup := by
  have hkey (f : Field) : Text.trim f.key ≠ "" ↔ Text.isBlankText f.key = false := by
    rw [ne_eq, Text.trim_eq_empty_iff, Bool.not_eq_true]
  have hbounds (f : Field) : f.bounds.bind Bounds.inverted? = none
      ↔ ∀ b, f.bounds = some b →
        ∀ min max, b.min = some min → b.max = some max → ¬ max.lt min = true := by
    rw [Option.bind_eq_none_iff]
    apply forall₂_congr
    intro b _
    rw [Option.eq_none_iff_forall_ne_some, Prod.forall]
    apply forall₂_congr
    intro min max
    rw [ne_eq, Bounds.inverted?_eq_some_iff, not_and, not_and]
  constructor
  . intro h
    refine ⟨?_, h.keys⟩
    intro f hf
    exact ⟨(hkey f).1 (h.keysNotBlank f hf),
      Choices.duplicateValue?_eq_none_iff.2 (h.choices f hf), (hbounds f).2 (h.bounds f hf)⟩
  . rintro ⟨hsound, hkeys⟩
    exact ⟨fun f hf => (hkey f).2 (hsound f hf).key, hkeys,
      fun f hf => Choices.duplicateValue?_eq_none_iff.1 (hsound f hf).choices,
      fun f hf => (hbounds f).1 (hsound f hf).bounds⟩

theorem iff_faultless : WellFormed fields ↔ firstFault? [] fields = none := by
  rw [iff_sound, firstFault?_eq_none_iff]
  simp

theorem perm (h : others.Perm fields) : WellFormed others ↔ WellFormed fields := by
  rw [iff_sound, iff_sound, (h.map Field.key).nodup_iff]
  simp only [h.mem_iff]

end WellFormed

namespace Schema

theorem exists_ofFields?_eq_ok_iff {fields : List Field}
    : (∃ s, ofFields? fields = .ok s) ↔ WellFormed fields := by
  rw [WellFormed.iff_faultless]
  unfold ofFields?
  split
  . next e he => simp [he]
  . next h => simp [h]

theorem ofFields?_eq_error_iff {fields : List Field} {e : SchemaError}
    : ofFields? fields = .error e ↔ firstFault? [] fields = some e := by
  unfold ofFields?
  split
  . next e' he => simp [he]
  . next h => simp [h]

/-- A list of fields is a schema exactly if it is well formed, in whatever order, and the schema has the
fields as they are. Otherwise the list is refused for what is said against the first field that does not
go with the well-formed fields before it. -/
theorem ofFields?_exact (fields : List Field)
    : ((∃ s, ofFields? fields = .ok s) ↔ WellFormed fields)
      ∧ (∀ s, ofFields? fields = .ok s → s.fields = fields)
      ∧ (∀ e, ofFields? fields = .error e
          ↔
        ∃ before f after, fields = before ++ f :: after ∧ WellFormed before
          ∧ f.Blamed (before.map Field.key) e)
      ∧ ∀ others : List Field, others.Perm fields →
          ((∃ s, ofFields? others = .ok s) ↔ ∃ s, ofFields? fields = .ok s) := by
  refine ⟨exists_ofFields?_eq_ok_iff, ?_, ?_, ?_⟩
  . intro s h
    exact fields_of_ofFields?_eq_ok h
  . intro e
    simp only [ofFields?_eq_error_iff, firstFault?_eq_some_iff, WellFormed.iff_faultless]
  . intro others hperm
    rw [exists_ofFields?_eq_ok_iff, exists_ofFields?_eq_ok_iff, WellFormed.perm hperm]

theorem ofFields?_exact_application
    : let name : Field := { key := "name", label := "Name", kind := .text }
      let raise : Field :=
        { key := "raise", label := "Raise", kind := .number,
          bounds := some (.range (.ofInt _ 1) (.ofInt _ 1)) }
      let stage : Field :=
        { key := "stage", label := "Stage", kind := .select,
          choices := [.ofValue "seed", .ofValue "growth", .ofValue "seed"] }
      (∃ s, ofFields? [name, raise] = .ok s ∧ s.fields = [name, raise])
        ∧ [raise, name].Perm [name, raise] ∧ (∃ s, ofFields? [raise, name] = .ok s)
        ∧ ofFields? [name, stage, name] = .error (.duplicateChoice "stage" "seed")
        ∧ ∃ before f after, [name, stage, name] = before ++ f :: after ∧ WellFormed before
          ∧ f.Blamed (before.map Field.key) (.duplicateChoice "stage" "seed") := by
  intro name raise stage
  have hfault : firstFault? [] [name, raise] = none := by decide +kernel
  have hok := ofFields?_of_faultless hfault
  have hperm : [raise, name].Perm [name, raise] := .swap name raise []
  have herror : ofFields? [name, stage, name] = .error (.duplicateChoice "stage" "seed") :=
    ofFields?_eq_error_iff.2 (by decide +kernel)
  rcases ofFields?_exact [name, raise] with ⟨_, hsame, _, hreorder⟩
  exact ⟨⟨_, hok, hsame _ hok⟩, hperm, (hreorder _ hperm).2 ⟨_, hok⟩, herror,
    ((ofFields?_exact [name, stage, name]).2.2.1 _).1 herror⟩

end Schema

end Counterpart
