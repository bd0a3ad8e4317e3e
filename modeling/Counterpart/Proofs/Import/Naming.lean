import Counterpart.Proofs.Import.Growth
import Counterpart.Proofs.Import.Occurrences

/-!
This module contains what texts stand for once a field has grown: a text that named a choice keeps
its value, and a text that named none stands for the discovered choice of its form.
-/

namespace Counterpart

open Text

namespace Field

variable {f : Field} {values : List Json} {s t value : String}

theorem normalize?_learn_of_mem_newChoices (hs : s ∈ f.newChoices values) (h : fold t = fold s)
    : (f.learn values).choices.normalize? t = some s := by
  have hold : ¬ f.choices.namesChoice t = true := by
    rw [Choices.namesChoice_congr h]
    exact (mem_newChoices hs).2
  have hnew : Choices.namesChoice ((f.newChoices values).map Choice.ofValue) t = true := by
    apply Choices.namesChoice_iff.2
    exact ⟨_, List.mem_map_of_mem hs, Choice.matchesLoosely_ofValue_iff.2 h.symm⟩
  rw [learn_eq, Choices.normalize?_append_of_not_namesChoice_left hold]
  rw [← Choices.isSome_normalize?, Option.isSome_iff_exists] at hnew
  rcases hnew with ⟨value, hvalue⟩
  -- Only one discovered text has the form of `t`.
  rcases Choices.exists_of_normalize? hvalue with ⟨c, hc, rfl, hmatches⟩
  rcases List.mem_map.1 hc with ⟨u, hu, rfl⟩
  have heq : fold u = fold t := Choice.matchesLoosely_ofValue_iff.1 hmatches
  rw [hvalue, eq_of_mem_newChoices hs hu (h.symm.trans heq.symm)]
  rfl

theorem grow_singleton (f : Field) (extra : List Choice)
    : Import.grow [f] (.ofList [(f.key, extra)]) = [f.grow extra] := by
  have hget : (KeyMap.ofList [(f.key, extra)]).get? f.key = some extra := by
    simp [KeyMap.get?_ofList]
  unfold Import.grow
  rw [List.map_singleton, hget, Option.getD_some]

/-- Growing a field by what is discovered in a column changes no text's value. A text of the form of
a discovered one stands for that one, and every text read from the column that named no choice is of
such a form. -/
theorem normalize?_grow_newChoices (f : Field) (values : List Json)
    : ∃ g, Import.grow [f] (.ofList [(f.key, (f.newChoices values).map .ofValue)]) = [g]
        ∧ (∀ t value, f.choices.normalize? t = some value → g.choices.normalize? t = some value)
        ∧ (∀ s ∈ f.newChoices values, ∀ t, fold t = fold s → g.choices.normalize? t = some s)
        ∧ (f.bearsChoices = true →
          ∀ t ∈ f.texts values, f.choices.normalize? t = none →
            ∃ s ∈ f.newChoices values, fold s = fold t ∧ g.choices.normalize? t = some s) := by
  refine ⟨f.learn values, grow_singleton f _, ?_, ?_, ?_⟩
  . intro t value h
    rw [normalize?_learn, h]
    rw [← Choices.isSome_normalize?, h]
    rfl
  . intro s hs t heq
    exact normalize?_learn_of_mem_newChoices hs heq
  . intro hf t ht hnone
    rw [texts_eq] at ht
    rcases namesChoice_or_mem_newChoices hf ht with hold | ⟨s, hs, heq⟩
    . rw [← Choices.isSome_normalize?, hnone] at hold
      cases hold
    . exact ⟨s, hs, heq, normalize?_learn_of_mem_newChoices hs heq.symm⟩

theorem normalize?_grow_newChoices_stage
    : let stage : Field :=
        { key := "stage", label := "Stage", kind := .select, choices := [⟨"Seed", "s"⟩] }
      let values : List Json := [.string "Growth", .string "GROWTH", .string "seed"]
      stage.bearsChoices = true ∧ stage.newChoices values = ["Growth"]
        ∧ stage.choices.normalize? "SEED" = some "s" ∧ stage.choices.normalize? "GROWTH" = none
        ∧ ∃ g, Import.grow [stage] (.ofList [("stage", [.ofValue "Growth"])]) = [g]
          ∧ g.choices.normalize? "SEED" = some "s" ∧ g.choices.normalize? "growth" = some "Growth"
          ∧ ∃ s ∈ ["Growth"], fold s = fold "GROWTH" ∧ g.choices.normalize? "GROWTH" = some s := by
  intro stage values
  have hnew : stage.newChoices values = ["Growth"] := by decide +kernel
  have hseed : stage.choices.normalize? "SEED" = some "s" := by decide +kernel
  have hgrowth : stage.choices.normalize? "GROWTH" = none := by decide +kernel
  have htext : "GROWTH" ∈ stage.texts values := by decide +kernel
  have hfold : fold "growth" = fold "Growth" := by decide +kernel
  rcases normalize?_grow_newChoices stage values with ⟨g, hg, hkept, hdiscovered, hread⟩
  rw [hnew] at hg hdiscovered hread
  exact ⟨rfl, hnew, hseed, hgrowth, g, hg, hkept _ _ hseed,
    hdiscovered "Growth" (by simp) "growth" hfold, hread rfl "GROWTH" htext hgrowth⟩

end Field

end Counterpart
