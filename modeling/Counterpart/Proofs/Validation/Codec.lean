import Counterpart.Proofs.Field.Codec
import Counterpart.Proofs.Json.Value
import Counterpart.Proofs.KeyMap
import Counterpart.Validation.Validator

/-!
This module contains that the issues of a candidate are restored from their stored form. The name
that is stored with an issue tells what else is, and an unset bound is stored as `null`. Only a number
that is not finite would be lost, and validation against finite bounds finds none.
-/

namespace Counterpart

open Numeric Json

namespace Issue

def Mentions (i : Issue) (w : Double) : Prop :=
  match i with
  | .outOfRange value min max => value = w ∨ min = some w ∨ max = some w
  | _ => False

def IsFinite (i : Issue) : Prop := ∀ w, i.Mentions w → ∃ x, w = .finite x

def ReadsBack (i : Issue) : Prop := ∀ x, i.Mentions (.finite x) → (Number.float x).ReadsBack

variable {i : Issue}

theorem exists_bound {bound : Option Double} (h : ∀ w, bound = some w → ∃ x, w = .finite x)
    : ∃ x? : Option (Finite double), bound = x?.map .finite := by
  cases bound with
  | none => exact ⟨none, rfl⟩
  | some w =>
    rcases h w rfl with ⟨x, rfl⟩
    exact ⟨some x, rfl⟩

theorem IsFinite.exists_finite {value : Double} {min max : Option Double}
    (h : (outOfRange value min max).IsFinite)
    : ∃ x min? max?, value = .finite x ∧ min = Option.map .finite min?
        ∧ max = Option.map .finite max? := by
  rcases h value (.inl rfl) with ⟨x, hx⟩
  rcases exists_bound fun w hw => h w (.inr (.inl hw)) with ⟨min?, hmin⟩
  rcases exists_bound fun w hw => h w (.inr (.inr hw)) with ⟨max?, hmax⟩
  exact ⟨x, min?, max?, hx, hmin, hmax⟩

theorem ofJson_notChoices (values : List String)
    : ofJson (notChoices values).toJson = .ok (notChoices values) := by
  have hvalues : (Decoder.list Decoder.string).ofJson (strings values) = .ok values :=
    Decoder.list_ofJson_map fun _ _ => rfl
  have hbuild : (notChoices <$> Record.required "values" (.list Decoder.string)).build false
      (fun name => [("values", strings values)].lookup name) = .ok (notChoices values) :=
    Record.build_map _ (Record.build_required rfl hvalues)
  have hrecord (name : String)
      : ((notChoices <$> Record.required "values" (.list Decoder.string)).decoder name).ofJson
            (.object [("values", strings values)])
          =
        .ok (notChoices values) :=
    Record.ofJson_object ((Record.looksAtAll_member _ _ _ _).map _) (by simp) hbuild
  exact hrecord "struct variant FieldIssue::NotOptions"

theorem ofJson_stored (h : i.IsFinite)
    : ofJson i.toJson = .ok i ∧ ofJson i.declared = .ok i := by
  cases i with
  | outOfRange value min max =>
    rcases h.exists_finite with ⟨x, min?, max?, rfl, rfl, rfl⟩
    cases min? <;> cases max? <;> exact ⟨rfl, rfl⟩
  | notChoices values => exact ⟨ofJson_notChoices values, ofJson_notChoices values⟩
  | _ => exact ⟨rfl, rfl⟩

theorem readsValue_declared (h : i.IsFinite) (hread : i.ReadsBack) (depth : Nat)
    : ReadsValue (depth + 2) i.declared := by
  have hstring (s : String) (depth : Nat) : ReadsValue depth (.string s) :=
    (readsScalar_string s).readsValue depth
  have hkind : ReadsValue (depth + 1) (.string i.code) := hstring i.code _
  cases i with
  | outOfRange value min max =>
    rcases h.exists_finite with ⟨x, min?, max?, rfl, rfl, rfl⟩
    have hbound {x? : Option (Finite double)} (hx : ∀ x, x? = some x → (Number.float x).ReadsBack)
        : ReadsValue (depth + 1) (boundJson (x?.map .finite)) := by
      cases x? with
      | none => exact readsScalar_null.readsValue _
      | some x => exact (readsScalar_number (hx x rfl)).readsValue _
    apply ReadsValue.object
    simp only [List.forall_mem_cons]
    refine ⟨hkind, ?_, ?_, ?_, List.forall_mem_nil _⟩
    . exact (readsScalar_number (hread x (.inl rfl))).readsValue _
    . apply hbound
      rintro y rfl
      exact hread y (.inr (.inl rfl))
    . apply hbound
      rintro y rfl
      exact hread y (.inr (.inr rfl))
  | notAChoice value =>
    apply ReadsValue.object
    simp only [List.forall_mem_cons]
    exact ⟨hkind, hstring value _, List.forall_mem_nil _⟩
  | notChoices values =>
    have hvalues : ReadsValue (depth + 1) (strings values) := by
      apply ReadsValue.array
      intro j hj
      rcases List.mem_map.1 hj with ⟨s, _, rfl⟩
      exact hstring s depth
    apply ReadsValue.object
    simp only [List.forall_mem_cons]
    exact ⟨hkind, hvalues, List.forall_mem_nil _⟩
  | _ =>
    apply ReadsValue.object
    simp only [List.forall_mem_cons]
    exact ⟨hkind, List.forall_mem_nil _⟩

theorem reads_declared (h : i.IsFinite) (hread : i.ReadsBack) (depth : Nat)
    : decoder.Reads (depth + 2) i.declared :=
  Decoder.reads_ofValue (readsValue_declared h hread depth) (ofJson_stored h).2

end Issue

namespace Issues

def IsFinite (is : Issues) : Prop := ∀ i ∈ is.values, i.IsFinite

def ReadsBack (is : Issues) : Prop := ∀ i ∈ is.values, i.ReadsBack

end Issues

namespace Rule

theorem mentions_of_check {r : Rule} {mode : Mode} {j : Json} {i : Issue}
    (h : r.check mode j = .error i) {w : Double} (hw : i.Mentions w)
    : (∃ x, w = .finite x) ∨ ∃ b, r = .number (some b) ∧ b.Mentions w := by
  cases r with
  | number bounds =>
    simp only [check] at h
    split at h
    . cases h
      exact hw.elim
    . next x _ =>
      split at h
      . split at h <;> cases h
      . cases h
        rcases hw with hw | hw | hw
        . exact .inl ⟨x, hw.symm⟩
        . rcases Option.bind_eq_some_iff.1 hw with ⟨b, rfl, hmin⟩
          exact .inr ⟨b, rfl, .inl hmin⟩
        . rcases Option.bind_eq_some_iff.1 hw with ⟨b, rfl, hmax⟩
          exact .inr ⟨b, rfl, .inr (.inl hmax)⟩
  | text form =>
    have hissue : ¬ form.issue.Mentions w := by cases form <;> exact id
    unfold check at h
    grind [Issue.Mentions]
  | single choices | several choices | checkbox | any =>
    -- No other rule finds an issue with a number.
    unfold check at h
    grind [Issue.Mentions]

theorem bounds_of_ofField? {f : Field} {bounds : Option Bounds}
    (h : ofField? f = some (.number bounds))
    : f.bounds = bounds := by
  unfold ofField? at h
  split at h <;> cases h
  rfl

end Rule

theorem FieldRule.mentions_of_check {r : FieldRule} {mode : Mode} {j : Json} {i : Issue}
    (h : r.check mode j = .error i) {w : Double} (hw : i.Mentions w)
    : (∃ x, w = .finite x) ∨ ∃ b, r.rule = .number (some b) ∧ b.Mentions w := by
  unfold check at h
  split at h
  . cases h
    exact hw.elim
  . split at h
    . cases h
    . split at h
      . cases h
      . cases hcheck : r.rule.check mode j with
        | ok k =>
          rw [hcheck] at h
          cases h
        | error l =>
          rw [hcheck] at h
          cases h
          exact Rule.mentions_of_check hcheck hw

namespace Validator

theorem exists_check_of_issues {v : Validator} {candidate : Json} {i : Issue}
    (h : i ∈ (v.issues candidate).values)
    : ∃ r ∈ v.rules, ∃ j, r.check v.mode j = .error i := by
  rcases List.mem_map.1 h with ⟨e, he, rfl⟩
  rcases List.mem_filterMap.1 (KeyMap.mem_of_mem_ofList he) with ⟨⟨key, verdict⟩, hverdict, hi⟩
  rcases List.mem_map.1 hverdict with ⟨r, hr, hcheck⟩
  cases hcheck
  dsimp only at hi
  split at hi
  . next j hj =>
    cases hi
    exact ⟨r, hr, _, hj⟩
  . cases hi

theorem isFinite_of_validate {fields : List Field} {mode : Mode} {candidate : Json} {is : Issues}
    (hbounds : ∀ f ∈ fields, ∀ b, f.bounds = some b → b.IsFinite)
    (h : (compile fields mode).validate candidate = .error is)
    : is.IsFinite := by
  have his : (compile fields mode).issues candidate = is := by
    unfold validate at h
    dsimp only at h
    split at h
    . cases h
    . exact Except.error.inj h
  intro i hi w hw
  rw [← his] at hi
  rcases exists_check_of_issues hi with ⟨r, hr, j, hcheck⟩
  rcases FieldRule.mentions_of_check hcheck hw with hfinite | ⟨b, hrule, hb⟩
  . exact hfinite
  . rcases List.mem_filterMap.1 hr with ⟨f, hf, hfield⟩
    rcases Option.map_eq_some_iff.1 hfield with ⟨rule, hofField, rfl⟩
    cases hrule
    exact hbounds f hf b (Rule.bounds_of_ofField? hofField) w hb

end Validator

namespace Issues

variable {is : Issues}

theorem ofJson_toJson (h : is.IsFinite) : decoder.ofJson is.toJson = .ok is :=
  Decoder.map_ofJson_ofMap fun i hi => (Issue.ofJson_stored (h i hi)).1

theorem ofText_write (h : is.IsFinite) (hread : is.ReadsBack)
    : decoder.ofText is.write = .ok is := by
  have hreads : decoder.Reads maxDepth (.ofMap (is.map Issue.declared)) := by
    apply Decoder.Reads.keyMap
    intro m hm
    rcases List.mem_map.1 hm with ⟨e, he, rfl⟩
    have hi : e.2 ∈ is.values := List.mem_map_of_mem he
    exact Issue.reads_declared (h e.2 hi) (hread e.2 hi) 124
  apply Decoder.ofText_write hreads
  exact Decoder.map_ofJson_ofMap fun i hi => (Issue.ofJson_stored (h i hi)).2

/-- Issues with finite numbers are restored from their stored form, and from the text of it if the
texts of the numbers read as the numbers. The issues of a candidate are such if the bounds of the
fields are finite. -/
theorem restored_of_finite (is : Issues)
    : (is.IsFinite →
        decoder.ofJson is.toJson = .ok is ∧ (is.ReadsBack → decoder.ofText is.write = .ok is))
      ∧ ∀ fields mode candidate, (∀ f ∈ fields, ∀ b, f.bounds = some b → b.IsFinite) →
        (Validator.compile fields mode).validate candidate = .error is → is.IsFinite := by
  constructor
  . intro h
    exact ⟨ofJson_toJson h, ofText_write h⟩
  . intro fields mode candidate hbounds h
    exact Validator.isFinite_of_validate hbounds h

theorem restored_of_finite_grade
    : let five : Finite double := .ofInt double 5
      let bounds : Bounds := { min := some (.finite five) }
      let grade : Field := { key := "grade", label := "", kind := .number, bounds := some bounds }
      let stage : Field := { key := "stage", label := "", kind := .select }
      let topics : Field := { key := "Größe", label := "", kind := .multiselect }
      let name : Field := { key := "name", label := "", kind := .text, required := true }
      let candidate : Json := .object [
        ("grade", .string "4.5"), ("stage", .string "\"a\""),
        ("Größe", .array [.string "", .bool true])]
      let half : Finite double := (Finite.ofInt double 9).div (.ofInt double 2)
      let is : Issues := .ofList [
        ("grade", .outOfRange (.finite half) (some (.finite five)) none),
        ("stage", .notAChoice "\"a\""),
        ("Größe", .notChoices ["", "true"]),
        ("name", .required)]
      (Validator.compile [grade, stage, topics, name] .submission).validate candidate = .error is
        ∧ is.IsFinite
        ∧ decoder.ofJson is.toJson = .ok is
        ∧ decoder.ofText is.write = .ok is := by
  intro five bounds grade stage topics name candidate half is
  have herror : (Validator.compile [grade, stage, topics, name] .submission).validate candidate
      = .error is := by
    decide +kernel
  have hfinite : is.IsFinite := by
    apply (restored_of_finite is).2 [grade, stage, topics, name] .submission candidate _ herror
    simp only [List.forall_mem_cons]
    refine ⟨?_, ?_, ?_, ?_, List.forall_mem_nil _⟩
    . intro b hb w hw
      cases hb
      rcases hw with hw | hw | hw
      . cases hw
        exact ⟨five, rfl⟩
      . cases hw
      . cases hw
    . intro b hb
      cases hb
    . intro b hb
      cases hb
    . intro b hb
      cases hb
  have hvalues : is.values = [
      .notChoices ["", "true"], .outOfRange (.finite half) (some (.finite five)) none, .required,
      .notAChoice "\"a\""] := by
    decide +kernel
  have hread : is.ReadsBack := by
    have hhalf : (Number.float half).ReadsBack := by decide +kernel
    have hfive : (Number.float five).ReadsBack := by decide +kernel
    unfold ReadsBack
    rw [hvalues]
    simp only [List.forall_mem_cons]
    refine ⟨?_, ?_, ?_, ?_, List.forall_mem_nil _⟩
    . intro x hx
      cases hx
    . rintro x (hx | hx | hx)
      . rw [← Binary.finite.inj hx]
        exact hhalf
      . rw [← Binary.finite.inj (Option.some.inj hx)]
        exact hfive
      . cases hx
    . intro x hx
      cases hx
    . intro x hx
      cases hx
  have ⟨hjson, htext⟩ := (restored_of_finite is).1 hfinite
  exact ⟨herror, hfinite, hjson, htext hread⟩

end Issues

end Counterpart
