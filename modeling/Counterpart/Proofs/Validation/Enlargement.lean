import Counterpart.Proofs.Field.Choices
import Counterpart.Proofs.Validation.Relaxation

/-!
This module contains what appending choices to fields does to validation: what was accepted is accepted
with the same data, because a value of an old choice is still one.
-/

namespace Counterpart

variable {mode : Mode} {candidate j k : Json} {extra : Choices}

namespace Rule

def enlarge (extra : Choices) : Rule → Rule
  | .single choices => .single (choices ++ extra)
  | .several choices => .several (choices ++ extra)
  | r => r

theorem ofField?_append_choices (f : Field) (extra : Choices)
    : ofField? { f with choices := f.choices ++ extra } = (ofField? f).map (enlarge extra) := by
  unfold ofField?
  cases f.kind <;> rfl

theorem acceptsEmpty_enlarge (r : Rule) (j : Json)
    : (r.enlarge extra).acceptsEmpty j = r.acceptsEmpty j := by
  cases r with
  | text | number | single | checkbox | any => rfl
  | several choices => cases j <;> rfl

theorem isChoice_append {choices : Choices} (h : isChoice choices j = true)
    : isChoice (choices ++ extra) j = true := by
  cases j with
  | string s =>
    have hvalue : choices.hasValue s = true := h
    unfold isChoice
    dsimp only
    rw [Choices.hasValue_append, hvalue, Bool.true_or]
  | null | bool | number | array | object => cases h

theorem check_enlarge {r : Rule} (h : r.check mode j = .ok k)
    : (r.enlarge extra).check mode j = .ok k := by
  cases r with
  | text | number | checkbox | any => exact h
  | single choices =>
    unfold check at h
    dsimp only at h
    split at h
    . next hchoice =>
      unfold enlarge check
      dsimp only
      rw [if_pos (isChoice_append hchoice), h]
    . cases h
  | several choices =>
    cases j with
    | array items =>
      unfold check at h
      dsimp only at h
      split at h
      . next hnone =>
        have hmore : items.filter (!isChoice (choices ++ extra) ·) = [] := by
          simp only [List.filter_eq_nil_iff, Bool.not_eq_true', Bool.not_eq_false] at hnone ⊢
          intro item hitem
          exact isChoice_append (hnone item hitem)
        unfold enlarge check
        dsimp only
        rw [hmore, ← h]
      . cases h
    | null | bool | number | string | object => cases h

end Rule

theorem FieldRule.check_enlarge {r : FieldRule} {value : Option Json}
    (h : r.check mode j = .ok value)
    : FieldRule.check { r with rule := r.rule.enlarge extra } mode j = .ok value := by
  rcases check_eq_or r { r with rule := r.rule.enlarge extra } rfl r.rule.acceptsEmpty_enlarge
      mode mode j with heq | ⟨hold, hnew⟩
  . rw [heq, h]
  . rw [hold] at h
    rcases map_some_eq_ok_iff.1 h with ⟨k, hcheck, rfl⟩
    rw [hnew, Rule.check_enlarge hcheck]
    rfl

theorem Field.relaxes_append_choices (mode : Mode) (candidate : Json) (f : Field) (extra : Choices)
    : f.Relaxes candidate mode mode { f with choices := f.choices ++ extra } := by
  refine ⟨rfl, ?_⟩
  unfold failure? kept? verdict?
  rw [ofField?_eq, ofField?_eq, Rule.ofField?_append_choices]
  cases Rule.ofField? f with
  | none => exact fun _ => ⟨rfl, rfl⟩
  | some rule =>
    simp only [Option.map_some]
    cases hcheck : FieldRule.check ⟨f.key, f.required, rule⟩ mode
        ((candidate.member? f.key).getD .null) with
    | error i =>
      intro hnone
      cases hnone
    | ok value =>
      rw [FieldRule.check_enlarge hcheck]
      exact fun _ => ⟨rfl, rfl⟩

end Counterpart
