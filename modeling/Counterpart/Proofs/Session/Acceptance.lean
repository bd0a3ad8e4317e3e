import Counterpart.Proofs.Session.Growth
import Counterpart.Proofs.Validation.Enlargement

/-!
This module contains what an import means for data that is submitted later: what the form accepted it
still accepts, with the same data, and the form of the other side decides as before.
-/

namespace Counterpart

namespace Session

variable {s t : Session} {side : Side} {rows : List Row} {mapping : ColumnMapping} {create : Bool}
variable {outcome : Outcome}

theorem Compiled.validate_eq (hs : s.Compiled) (side : Side) (candidate : Json)
    : s.validate side candidate
        =
      (Validator.compile (s.schema side).fields .submission).validate candidate := by
  unfold validate
  rw [hs side]
  rfl

/-- An import of either mode takes nothing from what a side's form accepts. What the form still refuses
it refused before, for the same fields at least. The other form is not affected. -/
theorem importRows_keeps_accepted (hs : s.Reachable)
    (h : s.importRows side rows mapping create = .ok (outcome, t)) (candidate : Json)
    : (∀ data, s.validate side candidate = .ok data → t.validate side candidate = .ok data)
      ∧ (∀ issues, t.validate side candidate = .error issues →
        ∃ more, s.validate side candidate = .error more
          ∧ ∀ key i, issues.get? key = some i → ∃ l, more.get? key = some l)
      ∧ t.validate side.opposite candidate = s.validate side.opposite candidate := by
  have hkeys := (s.schema side).nodup_keys
  rcases fields_importRows_eq_append h with ⟨extra, hfields, _⟩
  have hrelaxes : ∀ f ∈ (s.schema side).fields,
      f.Relaxes candidate .submission .submission { f with choices := f.choices ++ extra f } :=
    fun f _ => f.relaxes_append_choices .submission candidate (extra f)
  rw [hs.compiled.validate_eq, (compiled_importRows hs.compiled h).validate_eq, hfields]
  refine ⟨?_, ?_, ?_⟩
  . intro data hdata
    exact Validator.validate_ok_of_relaxes hkeys hrelaxes hdata
  . intro issues hissues
    exact Validator.validate_error_of_relaxes hkeys hrelaxes hissues
  . unfold validate
    rw [(frame_importRows h).1]

theorem importRows_keeps_accepted_tags
    : let tags : Field :=
        { key := "tags", label := "Tags", kind := .multiselect, choices := [.ofValue "AI"] }
      let rows : List Row := [.ofList [("Tags", .string "ai, Bio")]]
      let mapping : ColumnMapping := .ofList [("tags", "Tags")]
      let known : KeyMap Json := .ofList [("tags", Json.strings ["AI"])]
      let brought : KeyMap Json := .ofList [("tags", Json.strings ["AI", "Bio"])]
      let strange : KeyMap Json := .ofList [("tags", Json.strings ["Bio", "Law"])]
      let issues : Issues := .ofList [("tags", .notChoices ["Law"])]
      ∃ (s t : Session) (outcome : Outcome),
        s.Reachable ∧ (s.schema .founder).fields = [tags] ∧ (s.schema .investor).fields = [tags]
          ∧ s.importRows .founder rows mapping true = .ok (outcome, t)
          ∧ s.validate .founder (.ofMap known) = .ok known
          ∧ t.validate .founder (.ofMap known) = .ok known
          ∧ t.validate .founder (.ofMap brought) = .ok brought
          ∧ t.validate .investor (.ofMap brought) = s.validate .investor (.ofMap brought)
          ∧ t.validate .founder (.ofMap strange) = .error issues
          ∧ ∃ more, s.validate .founder (.ofMap strange) = .error more
            ∧ ∃ l, more.get? "tags" = some l := by
  intro tags rows mapping known brought strange issues
  let s : Session :=
    { settings := {}, founder := .ofSchema ⟨[tags], by decide +kernel⟩,
      investor := .ofSchema ⟨[tags], by decide +kernel⟩, criteria := .empty }
  have hs : s.Reachable := .start _ _ {}
  have himport : s.importRows .founder rows mapping true = .ok (
      { submissions := [.ofMap brought],
        newChoices := some (.ofList [("tags", [.ofValue "Bio"])]), rejected := [] },
      s.setForm .founder (.ofSchema ⟨[tags.grow [.ofValue "Bio"]], by decide +kernel⟩)) := by
    decide +kernel
  have hknown : s.validate .founder (.ofMap known) = .ok known := by decide +kernel
  refine ⟨s, _, _, hs, rfl, rfl, himport, hknown, ?_, by decide +kernel, ?_, by decide +kernel, ?_⟩
  . exact (importRows_keeps_accepted hs himport _).1 known hknown
  . exact (importRows_keeps_accepted hs himport _).2.2
  . rcases (importRows_keeps_accepted hs himport (.ofMap strange)).2.1 issues (by decide +kernel) with
      ⟨more, hmore, hfails⟩
    exact ⟨more, hmore, hfails "tags" (.notChoices ["Law"]) (by decide +kernel)⟩

end Session

end Counterpart
