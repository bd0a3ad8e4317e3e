import Counterpart.Proofs.Import.Batches

/-!
This module contains the import of the same rows a second time: the fields that the first import has
grown offer everything that the rows name, so the second one finds no new choices and reads every
row as the first one did.
-/

namespace Counterpart

open Import

namespace Importer

variable {i : Importer}

theorem targetFields_next_self (hkeys : (i.fields.map Field.key).Nodup) (rows : List Row)
    : (i.next rows).targetFields rows = i.targetFields rows := by
  rw [targetFields_next hkeys, targetFields_append hkeys]
  split
  . next hcreate =>
    rw [targetFields_eq_map hkeys, if_pos hcreate, List.map_map]
    apply List.map_congr_left
    intro f _
    -- Growth keeps the key, so both times the field is filled from the same column.
    exact f.learn_learn (cells rows i.mapping f)
  . rfl

theorem discovered_next_self (hkeys : (i.fields.map Field.key).Nodup)
    (hcreate : i.createChoices = true) (rows : List Row)
    : ((i.next rows).discovered rows).isEmpty = true := by
  apply discover_isEmpty
  intro g hg
  unfold next at hg
  rw [targetFields_eq_map hkeys, if_pos hcreate] at hg
  rcases List.mem_map.1 hg with ⟨f, _, rfl⟩
  exact f.newChoices_learn (cells rows i.mapping f)

theorem newChoices_next_self (hkeys : (i.fields.map Field.key).Nodup) (rows : List Row)
    : ((i.next rows).run rows).newChoices = none := by
  unfold run
  dsimp only
  rw [if_neg]
  rintro ⟨hcreate, hnew⟩
  exact hnew (discovered_next_self hkeys hcreate rows)

theorem verdicts_next_self (hkeys : (i.fields.map Field.key).Nodup) (rows : List Row)
    : (i.next rows).verdicts rows = i.verdicts rows := by
  unfold verdicts
  rw [targetFields_next_self hkeys]
  rfl

theorem run_next_self (hkeys : (i.fields.map Field.key).Nodup) (rows : List Row)
    : (i.next rows).run rows = { i.run rows with newChoices := none } := by
  have hsubmissions : (i.run rows).submissions = ((i.next rows).run rows).submissions := by
    rw [submissions_eq_filterMap, submissions_eq_filterMap, verdicts_next_self hkeys]
  have hrejected : (i.run rows).rejected = ((i.next rows).run rows).rejected := by
    rw [rejected_eq_filterMap, rejected_eq_filterMap, verdicts_next_self hkeys]
  dsimp only
  rw [hsubmissions, hrejected, ← newChoices_next_self hkeys rows]

end Importer

end Counterpart
