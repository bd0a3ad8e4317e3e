import Counterpart.Proofs.Criteria.Append
import Counterpart.Proofs.KeyMap

/-!
This module contains the criteria as a ledger: a map from founder fields to the terms on which they
are paired, which remembers the order in which the founder fields were entered. Asked the same
things in the same order, the list of pairings and the ledger give the same answers and hold the
same pairings, because a founder field never occurs twice in the list.
-/

namespace Counterpart

open Numeric

structure Terms where
  investor : String
  kind : MatchKind := .identical
  weight : Option Double := none
  required : Bool := false

namespace Terms

def pairing (t : Terms) (founder : String) : Pairing where
  founder := founder
  investor := t.investor
  kind := t.kind
  weight := t.weight
  required := t.required

def amended (t : Terms) (patch : Patch) : Terms where
  investor := t.investor
  kind := patch.kind.getD t.kind
  weight := (patch.weight.map normalizeWeight).getD t.weight
  required := patch.required.getD t.required

end Terms

/-- The founder fields that are paired, in the order in which they were entered, and their terms. -/
@[ext]
structure Ledger where
  founders : List String
  terms? : String → Option Terms

namespace Ledger

def enter (l : Ledger) (founder : String) (t : Terms) : Ledger where
  founders := l.founders ++ [founder]
  terms? := fun key => if key = founder then some t else l.terms? key

def amend (l : Ledger) (founder : String) (t : Terms) : Ledger where
  founders := l.founders
  terms? := fun key => if key = founder then some t else l.terms? key

def strike (l : Ledger) (founder : String) : Ledger where
  founders := l.founders.filter (· != founder)
  terms? := fun key => if key = founder then none else l.terms? key

def pairing? (l : Ledger) (founder : String) : Option Pairing :=
  (l.terms? founder).map (·.pairing founder)

def pairings (l : Ledger) : List Pairing := l.founders.filterMap l.pairing?

end Ledger

namespace Criteria

inductive Request where
  | add (founder investor : String)
  | edit (founder investor : String) (patch : Patch)
  | remove (founder : String)
  | get (founder : String)
  | has (key : String)

inductive Answer where
  | added (p : Option Pairing)
  | refused (cause : CriteriaError)
  | edited (stored : Bool)
  | removed (p : Option Pairing)
  | found (p : Option Pairing)
  | mentioned (b : Bool)
  deriving DecidableEq

def answer (c : Criteria) : Request → Answer × Criteria
  | .add founder investor =>
    match c.add founder investor with
    -- What was added is the pairing behind all that were there before.
    | .ok d => (.added d.pairings[c.size]?, d)
    | .error e => (.refused e, c)
  | .edit founder investor patch =>
    (.edited (c.holds founder investor), c.edit founder investor patch)
  | .remove founder => (.removed (c.get? founder), c.remove founder)
  | .get founder => (.found (c.get? founder), c)
  | .has key => (.mentioned (c.mentions key), c)

def respond (answer : σ → Request → Answer × σ) (s : σ) : List Request → List Answer × σ
  | [] => ([], s)
  | request :: requests =>
    let (first, t) := answer s request
    let (rest, u) := respond answer t requests
    (first :: rest, u)

end Criteria

open Criteria

def Ledger.answer (l : Ledger) : Request → Answer × Ledger
  | .add founder investor =>
    match l.terms? founder with
    | some t => (.refused (.duplicateMapping founder t.investor investor), l)
    | none =>
      let t : Terms := { investor }
      (.added (some (t.pairing founder)), l.enter founder t)
  | .edit founder investor patch =>
    match l.terms? founder with
    | some t =>
      if t.investor = investor then
        (.edited true, l.amend founder (t.amended patch))
      else
        (.edited false, l)
    | none => (.edited false, l)
  | .remove founder =>
    match l.terms? founder with
    | some t => (.removed (some (t.pairing founder)), l.strike founder)
    | none => (.removed none, l)
  | .get founder => (.found (l.pairing? founder), l)
  | .has key => (.mentioned (l.pairings.any fun p => p.founder == key || p.investor == key), l)

namespace Pairing

def terms (p : Pairing) : Terms where
  investor := p.investor
  kind := p.kind
  weight := p.weight
  required := p.required

@[simp]
theorem pairing_terms (p : Pairing) : p.terms.pairing p.founder = p := by
  rfl

@[simp]
theorem terms_apply (p : Pairing) (patch : Patch)
    : (p.apply patch).terms = p.terms.amended patch := by
  unfold apply terms Terms.amended
  cases patch.weight with
  | none => rfl
  | some w => rfl

end Pairing

namespace Criteria

section Unique

variable {p : α → Bool} {as : List α}

theorem modifyFirst_eq_map (h : as.Pairwise fun a b => p a = true → ¬ p b = true) (f : α → α)
    : modifyFirst p f as = as.map fun a => if p a then f a else a := by
  induction as with
  | nil => rfl
  | cons a as ih =>
    have ⟨hhead, htail⟩ := List.pairwise_cons.1 h
    rw [modifyFirst, List.map_cons]
    split
    . next ha =>
      -- The search ends here, and behind `a` it would find nothing more.
      rw [List.map_congr_left, List.map_id]
      intro b hb
      rw [if_neg (hhead b hb ha)]
      rfl
    . rw [ih htail]

theorem eraseP_eq_filter (h : as.Pairwise fun a b => p a = true → ¬ p b = true)
    : as.eraseP p = as.filter (!p ·) := by
  induction as with
  | nil => rfl
  | cons a as ih =>
    have ⟨hhead, htail⟩ := List.pairwise_cons.1 h
    by_cases ha : p a = true
    . rw [List.eraseP_cons_of_pos ha, List.filter_cons_of_neg (by simp [ha]), List.filter_eq_self.2]
      intro b hb
      simp [hhead b hb ha]
    . rw [List.eraseP_cons_of_neg ha, List.filter_cons_of_pos (by simp [ha]), ih htail]

end Unique

def ledger (c : Criteria) : Ledger where
  founders := c.pairings.map Pairing.founder
  terms? := fun founder => (c.get? founder).map Pairing.terms

variable {c d : Criteria} {p : Pairing} {founder investor key : String}

theorem Sound.pairwise (hc : c.Sound) {pred : Pairing → Bool}
    (h : ∀ p, pred p = true → p.founder = founder)
    : c.pairings.Pairwise fun p q => pred p = true → ¬ pred q = true := by
  apply (List.pairwise_map.1 hc.founders).imp
  intro p q hne hp hq
  exact hne ((h p hp).trans (h q hq).symm)

theorem founder_of_pairs (h : p.pairs founder investor = true) : p.founder = founder := by
  unfold Pairing.pairs at h
  simp only [Bool.and_eq_true, beq_iff_eq] at h
  exact h.1

theorem get?_eq_some_iff (hc : c.Sound)
    : c.get? founder = some p ↔ p ∈ c.pairings ∧ p.founder = founder := by
  apply KeyMap.find?_key_eq_some_iff
  exact hc.founders

theorem founder_of_get?_eq_some (h : c.get? founder = some p) : p.founder = founder := by
  simpa using List.find?_some h

theorem get?_concat (c : Criteria) (p : Pairing) (key : String)
    : get? ⟨c.pairings ++ [p]⟩ key
        =
      (c.get? key).or (if p.founder = key then some p else none) := by
  unfold get?
  simp [List.find?_append, List.find?_singleton]

theorem edit_eq_map (hc : c.Sound) (founder investor : String) (patch : Patch)
    : c.edit founder investor patch
        =
      ⟨c.pairings.map fun p => if p.pairs founder investor then p.apply patch else p⟩ := by
  unfold edit
  rw [modifyFirst_eq_map (hc.pairwise fun p hp => founder_of_pairs hp)]

theorem get?_edit (hc : c.Sound) (founder investor : String) (patch : Patch) (key : String)
    : (c.edit founder investor patch).get? key
        =
      (c.get? key).map fun p => if p.pairs founder investor then p.apply patch else p := by
  rw [edit_eq_map hc]
  unfold get?
  rw [List.find?_map]
  congr 2
  funext p
  rw [Function.comp_apply]
  split
  . rfl
  . rfl

theorem edit_of_not_holds (h : ¬ c.holds founder investor = true) (patch : Patch)
    : c.edit founder investor patch = c := by
  have hnot : ∀ p ∈ c.pairings, ¬ p.pairs founder investor = true := by
    simpa [holds] using h
  have happend := modifyFirst_append hnot (·.apply patch) []
  rw [List.append_nil] at happend
  unfold edit
  rw [happend]
  simp [modifyFirst]

theorem holds_iff (hc : c.Sound)
    : c.holds founder investor = true
        ↔
      ∃ p, c.get? founder = some p ∧ p.investor = investor := by
  unfold holds Pairing.pairs
  simp only [List.any_eq_true, Bool.and_eq_true, beq_iff_eq, get?_eq_some_iff hc, and_assoc]

theorem remove_eq_filter (hc : c.Sound) (founder : String)
    : c.remove founder = ⟨c.pairings.filter (·.founder != founder)⟩ := by
  unfold remove
  rw [eraseP_eq_filter (hc.pairwise fun p hp => by simpa using hp)]
  rfl

theorem get?_remove (hc : c.Sound) (founder key : String)
    : (c.remove founder).get? key = if key = founder then none else c.get? key := by
  rw [remove_eq_filter hc]
  unfold get?
  rw [List.find?_filter]
  split
  . next heq =>
    rw [heq, List.find?_eq_none]
    intro p _
    simp
  . next hne =>
    congr 1
    funext p
    by_cases hp : p.founder = key
    . simp [hp, hne]
    . simp [hp]

theorem remove_of_get?_eq_none (h : c.get? founder = none) : c.remove founder = c := by
  rw [get?_eq_none_iff] at h
  unfold remove
  rw [List.eraseP_of_forall_not]
  intro p hp
  simp [h p hp]

theorem terms?_ledger (c : Criteria) (founder : String)
    : c.ledger.terms? founder = (c.get? founder).map Pairing.terms := by
  rfl

theorem pairing?_ledger (c : Criteria) (founder : String)
    : c.ledger.pairing? founder = c.get? founder := by
  unfold Ledger.pairing? ledger
  dsimp only
  cases hp : c.get? founder with
  | none => rfl
  | some p =>
    rw [Option.map_some, Option.map_some, ← founder_of_get?_eq_some hp, Pairing.pairing_terms]

theorem pairings_ledger (hc : c.Sound) : c.ledger.pairings = c.pairings := by
  unfold Ledger.pairings ledger
  rw [List.filterMap_map]
  calc
    c.pairings.filterMap (c.ledger.pairing? ∘ Pairing.founder)
    _ = c.pairings.filterMap some := by
      apply List.filterMap_congr
      intro p hp
      rw [Function.comp_apply, pairing?_ledger, (get?_eq_some_iff hc).2 ⟨hp, rfl⟩]
    _ = c.pairings := List.filterMap_some

theorem ledger_append (hnew : c.get? p.founder = none)
    : ledger ⟨c.pairings ++ [p]⟩ = c.ledger.enter p.founder p.terms := by
  apply Ledger.ext
  . simp [ledger, Ledger.enter]
  . funext key
    unfold ledger Ledger.enter
    dsimp only
    rw [get?_concat]
    split
    . next hkey =>
      rw [hkey] at hnew
      rw [hnew, if_pos hkey.symm]
      rfl
    . next hkey =>
      rw [if_neg (Ne.symm hkey), Option.or_none]

theorem ledger_edit (hc : c.Sound) (hp : c.get? founder = some p) (patch : Patch)
    : (c.edit founder p.investor patch).ledger
        =
      c.ledger.amend founder (p.terms.amended patch) := by
  apply Ledger.ext
  . unfold ledger Ledger.amend
    dsimp only
    rw [edit_eq_map hc, List.map_map]
    apply List.map_congr_left
    intro q _
    rw [Function.comp_apply]
    split
    . rfl
    . rfl
  . funext key
    unfold ledger Ledger.amend
    dsimp only
    rw [get?_edit hc]
    split
    . next hkey =>
      have hpairs : p.pairs founder p.investor = true := by
        simp [Pairing.pairs, founder_of_get?_eq_some hp]
      rw [hkey, hp, Option.map_some, Option.map_some, if_pos hpairs, Pairing.terms_apply]
    . next hkey =>
      cases hq : c.get? key with
      | none => rfl
      | some q =>
        have hpairs : ¬ q.pairs founder p.investor = true := by
          intro hpairs
          exact hkey ((founder_of_get?_eq_some hq).symm.trans (founder_of_pairs hpairs))
        rw [Option.map_some, if_neg hpairs]

theorem ledger_remove (hc : c.Sound) (founder : String)
    : (c.remove founder).ledger = c.ledger.strike founder := by
  apply Ledger.ext
  . unfold ledger Ledger.strike
    dsimp only
    rw [remove_eq_filter hc, List.filter_map]
    rfl
  . funext key
    unfold ledger Ledger.strike
    dsimp only
    rw [get?_remove hc]
    split
    . rfl
    . rfl

theorem answer_ledger (hc : c.Sound) (request : Request)
    : c.ledger.answer request = ((c.answer request).1, (c.answer request).2.ledger) := by
  cases request with
  | add founder investor =>
    simp only [Ledger.answer, answer, terms?_ledger]
    cases hp : c.get? founder with
    | none =>
      rw [add_of_get?_eq_none hp]
      dsimp only
      rw [ledger_append hp]
      simp [size, Terms.pairing, Pairing.terms]
    | some p =>
      rw [add_of_get?_eq_some hp]
      rfl
  | edit founder investor patch =>
    simp only [Ledger.answer, answer, terms?_ledger]
    -- No founder field is paired twice, so an update finds its pairing by the founder field alone.
    by_cases hholds : c.holds founder investor = true
    . rcases (holds_iff hc).1 hholds with ⟨p, hp, rfl⟩
      rw [hholds, hp, ledger_edit hc hp]
      exact if_pos rfl
    . have hnot : c.holds founder investor = false := by simpa using hholds
      rw [hnot, edit_of_not_holds hholds]
      cases hp : c.get? founder with
      | none => rfl
      | some p =>
        have hne : p.investor ≠ investor := fun heq => hholds ((holds_iff hc).2 ⟨p, hp, heq⟩)
        exact if_neg hne
  | remove founder =>
    simp only [Ledger.answer, answer, terms?_ledger]
    cases hp : c.get? founder with
    | none =>
      rw [remove_of_get?_eq_none hp]
      rfl
    | some p =>
      rw [ledger_remove hc, Option.map_some]
      dsimp only
      rw [← founder_of_get?_eq_some hp, Pairing.pairing_terms]
  | get founder =>
    simp only [Ledger.answer, answer, pairing?_ledger]
  | has key =>
    simp only [Ledger.answer, answer, pairings_ledger hc]
    rfl

theorem Sound.answer (hc : c.Sound) (request : Request) : (c.answer request).2.Sound := by
  cases request with
  | add founder investor =>
    unfold Criteria.answer
    dsimp only
    split
    . next d hd => exact hc.add hd
    . exact hc
  | edit founder investor patch => exact hc.edit founder investor patch
  | remove founder => exact hc.remove founder
  | get founder => exact hc
  | has key => exact hc

theorem respond_ledger (hc : c.Sound) (requests : List Request)
    : respond Ledger.answer c.ledger requests
        =
      ((respond answer c requests).1, (respond answer c requests).2.ledger) := by
  -- Every request is made of the criteria that the ones before it left, and these are sound.
  induction requests generalizing c with
  | nil => rfl
  | cons request requests ih =>
    simp only [respond]
    rw [answer_ledger hc, ih (hc.answer request)]

theorem Sound.respond (hc : c.Sound) (requests : List Request)
    : (Criteria.respond Criteria.answer c requests).2.Sound := by
  induction requests generalizing c with
  | nil => exact hc
  | cons request requests ih => exact ih (hc.answer request)

/-- Whatever is asked of criteria that were loaded, the ledger of their pairings gives the same
answers and ends with the same pairings; no founder field is paired twice then, and every weight is
a number between zero and one. -/
theorem respond_eq_ledger {ps : List Pairing} (h : ofPairings ps = .ok c) (requests : List Request)
    : let stored := respond answer c requests
      let reference := respond Ledger.answer c.ledger requests
      stored.1 = reference.1
        ∧ stored.2.pairings = reference.2.pairings
        ∧ (stored.2.pairings.map Pairing.founder).Nodup
        ∧ ∀ p ∈ stored.2.pairings, ∀ w, p.weight = some w → IsWeight w := by
  intro stored reference
  have hc : c.Sound := sound_empty.addAll h
  have hstored : stored.2.Sound := hc.respond requests
  have hreference : reference = (stored.1, stored.2.ledger) := respond_ledger hc requests
  refine ⟨?_, ?_, hstored.founders, hstored.weights⟩
  . rw [hreference]
  . rw [hreference, pairings_ledger hstored]

theorem respond_eq_ledger_contact
    : let five : Double := .finite (.ofInt double 5)
      let one : Double := .finite (.ofInt double 1)
      let ps : List Pairing := [{ founder := "email", investor := "contact" }]
      let requests : List Request :=
        [.add "email" "phone", .add "stage" "focus", .edit "stage" "contact" { weight := some five },
          .edit "stage" "focus" { weight := some five }, .has "focus", .remove "email",
          .get "email", .add "email" "phone"]
      ofPairings ps = .ok ⟨ps⟩
        ∧ (respond answer ⟨ps⟩ requests).1
            =
          [.refused (.duplicateMapping "email" "contact" "phone"),
            .added (some { founder := "stage", investor := "focus" }), .edited false, .edited true,
            .mentioned true, .removed (some { founder := "email", investor := "contact" }),
            .found none, .added (some { founder := "email", investor := "phone" })]
        ∧ (respond Ledger.answer (ledger ⟨ps⟩) requests).2.pairings
            =
          [{ founder := "stage", investor := "focus", weight := some one },
            { founder := "email", investor := "phone" }] := by
  intro five one ps requests
  have h : ofPairings ps = .ok ⟨ps⟩ := by decide
  have hreference := respond_eq_ledger h requests
  refine ⟨h, by decide +kernel, ?_⟩
  rw [← hreference.2.1]
  decide +kernel

end Criteria

end Counterpart
