import Counterpart.Log.Setup

/-!
This module contains what repeated attempts to set up the log come to. Of all attempts whose file
can be opened the first one succeeds and its subscriber stays. Whether values are shown follows the
last of them, although that one may have been refused.
-/

namespace Counterpart.Log

structure Attempt where
  config : Config
  opens : String → Bool

def Attempt.opened (a : Attempt) : Bool := a.config.file.all a.opens

namespace State

variable {s t : State} {a : Attempt} {e : SetupError}

def attempt (s : State) (a : Attempt) : State := (s.install a.opens a.config).2

theorem install_of_not_opened (h : ¬ a.opened = true) (s : State)
    : ∃ path, s.install a.opens a.config = (.error (.cannotOpen path), s) := by
  unfold Attempt.opened at h
  unfold install
  cases hfile : a.config.file with
  | none => simp [hfile] at h
  | some path =>
    rw [hfile, Option.all_some] at h
    exact ⟨path, by simp [Option.filter, h]⟩

theorem install_of_opened (h : a.opened = true) (s : State)
    : s.install a.opens a.config
        =
      match s.subscriber with
      | some _ => (.error .alreadyInstalled, { s with showsData := a.config.logData })
      | none => (.ok (), { subscriber := some a.config, showsData := a.config.logData }) := by
  unfold Attempt.opened at h
  unfold install
  cases hfile : a.config.file with
  | none => rfl
  | some path =>
    rw [hfile, Option.all_some] at h
    simp only [Option.filter, h]
    rfl

theorem install_eq_ok_iff
    : (s.install a.opens a.config).1 = .ok () ↔ a.opened = true ∧ s.subscriber = none := by
  by_cases h : a.opened = true
  . rw [install_of_opened h]
    cases s.subscriber with
    | none => simp [h]
    | some c => simp
  . rcases install_of_not_opened h s with ⟨path, hpath⟩
    rw [hpath]
    simp [h]

theorem attempt_of_not_opened (h : ¬ a.opened = true) (s : State) : s.attempt a = s := by
  rcases install_of_not_opened h s with ⟨path, hpath⟩
  unfold attempt
  rw [hpath]

theorem attempt_of_opened (h : a.opened = true) (s : State)
    : s.attempt a
        =
      { subscriber := s.subscriber.or (some a.config), showsData := a.config.logData } := by
  unfold attempt
  rw [install_of_opened h]
  cases s.subscriber with
  | none => rfl
  | some c => rfl

theorem foldl_attempt (attempts : List Attempt) (s : State)
    : attempts.foldl attempt s
        =
      { subscriber :=
          s.subscriber.or ((attempts.filter Attempt.opened).head?.map Attempt.config)
        showsData :=
          ((attempts.filter Attempt.opened).getLast?.map (·.config.logData)).getD s.showsData } := by
  induction attempts generalizing s with
  | nil => simp
  | cons a attempts ih =>
    rw [List.foldl_cons, ih]
    by_cases h : a.opened = true
    . rw [attempt_of_opened h, List.filter_cons_of_pos h, List.getLast?_cons]
      cases (attempts.filter Attempt.opened).getLast? with
      | none => simp
      | some b => simp
    . rw [attempt_of_not_opened h, List.filter_cons_of_neg h]

theorem showsData_of_redact_eq (h : ∀ value, s.redact value = t.redact value)
    : s.showsData = t.showsData := by
  have hempty := h ""
  unfold redact redacted at hempty
  cases hs : s.showsData with
  | false =>
    cases ht : t.showsData with
    | false => rfl
    | true => simp [hs, ht] at hempty
  | true =>
    cases ht : t.showsData with
    | false => simp [hs, ht] at hempty
    | true => rfl

theorem redact_congr (h : s.showsData = t.showsData) (value : String)
    : s.redact value = t.redact value := by
  unfold redact
  rw [h]

theorem redact_attempt_iff
    : (∀ value, (s.attempt a).redact value = s.redact value)
        ↔
      (a.opened = true → a.config.logData = s.showsData) := by
  by_cases h : a.opened = true
  . rw [attempt_of_opened h]
    constructor
    . intro hredact _
      exact showsData_of_redact_eq hredact
    . intro hflag value
      exact redact_congr (hflag h) value
  . rw [attempt_of_not_opened h]
    simp [h]

/-- An attempt succeeds exactly if it gets its file open and none did before. Values are then shown
as the configuration of the installed subscriber has it, exactly if the last attempt that got its
file open asked for the same; and an attempt changes nothing about that exactly if it gets no file
open or asks for what is done already. -/
theorem showsData_eq_installed_iff (attempts : List Attempt)
    : let s := attempts.foldl attempt {}
      let opened := attempts.filter Attempt.opened
      (∀ a : Attempt,
          (s.install a.opens a.config).1 = .ok () ↔ a.opened = true ∧ opened = [])
        ∧ s.subscriber = opened.head?.map Attempt.config
        ∧ (s.showsData = s.subscriber.any Config.logData
            ↔
          opened.getLast?.map (·.config.logData) = opened.head?.map (·.config.logData))
        ∧ ∀ a : Attempt,
            (∀ value, (s.attempt a).redact value = s.redact value)
              ↔
            (a.opened = true → a.config.logData = s.showsData) := by
  intro s opened
  have hs : s = _ := foldl_attempt attempts {}
  have hsubscriber : s.subscriber = opened.head?.map Attempt.config := by
    rw [hs]
    rfl
  refine ⟨?_, hsubscriber, ?_, ?_⟩
  . intro a
    rw [install_eq_ok_iff, hsubscriber, Option.map_eq_none_iff, List.head?_eq_none_iff]
  . rw [hsubscriber, hs]
    -- No attempt got its file open, or there are a first one and a last one that did.
    cases hopened : opened with
    | nil => simp [opened, hopened]
    | cons first rest =>
      have hlast := List.getLast?_cons (a := first) (l := rest)
      simp [opened, hopened, hlast]
  . intro a
    exact redact_attempt_iff

/-- The second attempt is refused, and still values that the installed subscriber was to hide are
shown from then on. -/
theorem showsData_ne_installed
    : let opens : String → Bool := fun _ => true
      let quiet : Attempt := { config := { level := .info }, opens }
      let candid : Attempt := { config := { level := .info, logData := true }, opens }
      let s := [quiet].foldl attempt {}
      (s.install candid.opens candid.config).1 = .error .alreadyInstalled
        ∧ s.redact "ada@acme.io" = redacted
        ∧ (s.attempt candid).redact "ada@acme.io" = "ada@acme.io"
        ∧ (s.attempt candid).subscriber = some quiet.config
        ∧ (s.attempt candid).showsData ≠ quiet.config.logData := by
  exact ⟨rfl, rfl, rfl, rfl, by decide⟩

end State

end Counterpart.Log
