import Counterpart.Json.Record
import Counterpart.Proofs.KeyMap

/-!
This module contains when a record is read from an object. Building a record looks at every member
that it knows, so an object that names no member twice is read as soon as the record can be built
from it, in whatever order the members stand.
-/

namespace Counterpart.Json

section Stated

variable {entries : List (String × Option Json)}

def stated (entries : List (String × Option Json)) : List (String × Json) :=
  entries.filterMap fun e => e.2.map (e.1, ·)

theorem nodup_names_stated (h : (entries.map Prod.fst).Nodup)
    : ((stated entries).map Prod.fst).Nodup :=
  KeyMap.nodup_keys_filterMap Prod.fst Prod.snd h

theorem mem_stated_iff {name : String} {j : Json}
    : (name, j) ∈ stated entries ↔ (name, some j) ∈ entries := by
  unfold stated
  simp

theorem forall_mem_stated_iff {P : String × Json → Prop}
    : (∀ m ∈ stated entries, P m) ↔ ∀ e ∈ entries, ∀ j, e.2 = some j → P (e.1, j) := by
  simp only [Prod.forall, mem_stated_iff]
  constructor
  . rintro h name _ hmem j rfl
    exact h name j hmem
  . intro h name j hmem
    exact h name (some j) hmem j rfl

theorem lookup_stated (h : (entries.map Prod.fst).Nodup) (name : String)
    : (stated entries).lookup name = (entries.lookup name).join := by
  apply Option.ext
  intro j
  rw [KeyMap.lookup_eq_some_iff (nodup_names_stated h), mem_stated_iff]
  rw [Option.join_eq_some_iff, KeyMap.lookup_eq_some_iff h]

end Stated

theorem Decoder.nullable_ofJson {d : Decoder α} {j : Json} {a : α} (h : d.ofJson j = .ok a)
    (hnull : j ≠ .null)
    : d.nullable.ofJson j = .ok (some a) := by
  unfold nullable
  dsimp only
  split
  . exact absurd rfl hnull
  . rw [h]
    rfl

namespace Record

variable {r : Record α} {positional : Bool} {given : String → Option Json}
variable {d : Decoder α} {name : String} {a absent : α} {j : Json}

theorem build_map (f : α → β) (h : r.build positional given = .ok a)
    : (f <$> r).build positional given = .ok (f a) := by
  change (do let f ← Except.ok f; let a ← r.build positional given; return f a) = _
  rw [h]
  rfl

theorem build_seq {f : Record (α → β)} {g : α → β} (hf : f.build positional given = .ok g)
    (h : r.build positional given = .ok a)
    : (f <*> r).build positional given = .ok (g a) := by
  change (do let g ← f.build positional given; let a ← r.build positional given; return g a) = _
  rw [hf, h]
  rfl

theorem build_required (hgiven : given name = some j) (hj : d.ofJson j = .ok a)
    : (required name d).build positional given = .ok a := by
  unfold required member
  dsimp only
  rw [hgiven]
  exact hj

theorem build_optional (hgiven : given name = some j) (hj : d.ofJson j = .ok a)
    : (optional name d absent).build positional given = .ok a := by
  unfold optional member
  dsimp only
  rw [hgiven]
  exact hj

theorem build_optional_of_none (hgiven : given name = none)
    : (optional name d absent).build positional given = .ok absent := by
  unfold optional member
  dsimp only
  rw [hgiven]
  cases positional <;> rfl

theorem build_optional_map {toJson : α → Json} {a? : Option α}
    (hgiven : given name = a?.map toJson)
    (hj : ∀ a, a? = some a → d.nullable.ofJson (toJson a) = .ok (some a))
    : (optional name d.nullable none).build positional given = .ok a? := by
  cases a? with
  | none => exact build_optional_of_none hgiven
  | some a => exact build_optional hgiven (hj a rfl)

def LooksAtAll (r : Record α) : Prop :=
  ∀ ⦃positional given a⦄, r.build positional given = .ok a →
    ∀ ⦃name d⦄, (name, d) ∈ r.members → ∀ ⦃j⦄, given name = some j → d.ofJson j = .ok ()

theorem looksAtAll_member (name : String) (d : Decoder α) (ifNamed ifPositional : Option α)
    : (member name d ifNamed ifPositional).LooksAtAll := by
  intro positional given a h other e hmem j hj
  cases List.mem_singleton.1 hmem
  unfold member at h
  dsimp only at h
  rw [hj] at h
  dsimp only at h
  change (fun _ => ()) <$> d.ofJson j = .ok ()
  rw [h]
  rfl

theorem LooksAtAll.seq {f : Record (α → β)} (hf : f.LooksAtAll) (hr : r.LooksAtAll)
    : (f <*> r).LooksAtAll := by
  intro positional given b h name d hmem j hj
  change (do let g ← f.build positional given; let a ← r.build positional given; return g a) = _
    at h
  cases hbuildf : f.build positional given with
  | error e =>
    rw [hbuildf] at h
    cases h
  | ok g =>
    cases hbuild : r.build positional given with
    | error e =>
      rw [hbuildf, hbuild] at h
      cases h
    | ok a =>
      rcases List.mem_append.1 hmem with hmem | hmem
      . exact hf hbuildf hmem hj
      . exact hr hbuild hmem hj

theorem LooksAtAll.map (f : α → β) (hr : r.LooksAtAll) : (f <$> r).LooksAtAll := by
  have hf : (Record.pure f).LooksAtAll := by
    intro _ _ _ _ _ _ hmem
    cases hmem
  exact hf.seq hr

theorem check_eq_ok {members : List (String × Json)}
    (h : ∀ m ∈ members, ∀ d, (m.1, d) ∈ r.members → d.ofJson m.2 = .ok ())
    : r.check members = .ok () := by
  induction members with
  | nil => rfl
  | cons m members ih =>
    have ⟨hhead, htail⟩ := List.forall_mem_cons.1 h
    unfold check
    split
    . exact ih htail
    . next d hd =>
      rw [hhead d (KeyMap.mem_of_lookup hd)]
      exact ih htail

theorem ofJson_object (hr : r.LooksAtAll) {members : List (String × Json)}
    (hnames : (members.map Prod.fst).Nodup)
    (hbuild : r.build false (fun name => members.lookup name) = .ok a)
    : (r.decoder name).ofJson (.object members) = .ok a := by
  have hcheck : r.check members = .ok () := by
    apply check_eq_ok
    intro m hm d hd
    exact hr hbuild hd ((KeyMap.lookup_eq_some_iff hnames).2 hm)
  change (do r.check members; r.build false fun name => members.lookup name) = _
  rw [hcheck]
  exact hbuild

theorem ofJson_stated (hr : r.LooksAtAll) {entries : List (String × Option Json)}
    (hnames : (entries.map Prod.fst).Nodup)
    (hbuild : r.build false (fun name => (entries.lookup name).join) = .ok a)
    : (r.decoder name).ofJson (.object (stated entries)) = .ok a := by
  apply ofJson_object hr (nodup_names_stated hnames)
  simp only [lookup_stated hnames]
  exact hbuild

end Record

end Counterpart.Json
