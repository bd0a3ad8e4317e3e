import Counterpart.Field.Codec
import Counterpart.Proofs.Field.Schema
import Counterpart.Proofs.Json.Record
import Counterpart.Proofs.Json.Scan
import Counterpart.Proofs.Text.Trim

/-!
This module contains that a schema is restored from its stored form. The name of a type that a name
stands for is read as that type, numbers are finite, and everything else that is written is read by
the member it was written under; what was left out is what an absent member stands for. The check of
the fields that were read cannot fail, as the schema passed it before.
-/

namespace Counterpart

open Numeric Json

namespace FieldKind

theorem ofName_name_of_mem : ∀ e ∈ names, ofName e.2.name = e.2 := by
  decide +kernel

theorem isKnown_of_mem : ∀ e ∈ names, e.2.isKnown = true := by
  decide

theorem ofName_eq_of_lookup {s : String} {k : FieldKind}
    (h : names.lookup (Text.lowerAscii (Text.trim s)) = some k)
    : ofName s = k := by
  unfold ofName
  dsimp only
  rw [h]
  rfl

theorem ofName_eq_unknown {s : String}
    (h : names.lookup (Text.lowerAscii (Text.trim s)) = none)
    : ofName s = .unknown (Text.trim s) := by
  unfold ofName
  dsimp only
  rw [h]
  rfl

theorem ofName_name_ofName (s : String) : ofName (ofName s).name = ofName s := by
  cases h : names.lookup (Text.lowerAscii (Text.trim s)) with
  | none =>
    rw [ofName_eq_unknown h]
    unfold name
    rw [← Text.trim_trim] at h
    rw [ofName_eq_unknown h, Text.trim_trim]
  | some k =>
    rw [ofName_eq_of_lookup h]
    exact ofName_name_of_mem (Text.lowerAscii (Text.trim s), k) (KeyMap.mem_of_lookup h)

theorem name_ofName_of_not_isKnown {s : String} (h : (ofName s).isKnown = false)
    : (ofName s).name = Text.trim s := by
  cases hlookup : names.lookup (Text.lowerAscii (Text.trim s)) with
  | none =>
    rw [ofName_eq_unknown hlookup]
    rfl
  | some k =>
    have hknown : k.isKnown = true :=
      isKnown_of_mem (Text.lowerAscii (Text.trim s), k) (KeyMap.mem_of_lookup hlookup)
    rw [ofName_eq_of_lookup hlookup, hknown] at h
    cases h

theorem ofJson_toJson_eq (k : FieldKind) : decoder.ofJson k.toJson = .ok (ofName k.name) := by
  rfl

theorem ofJson_toJson {k : FieldKind} (h : ∃ name, k = ofName name)
    : decoder.ofJson k.toJson = .ok k := by
  rcases h with ⟨name, hk⟩
  rw [ofJson_toJson_eq, hk]
  exact congrArg Except.ok (ofName_name_ofName name)

theorem reads_toJson (k : FieldKind) (depth : Nat) : decoder.Reads depth k.toJson :=
  (Decoder.reads_string k.name depth).map _

end FieldKind

namespace Choice

theorem ofJson_toJson (c : Choice) : decoder.ofJson c.toJson = .ok c := by
  rfl

theorem reads_toJson (c : Choice) (depth : Nat) : decoder.Reads (depth + 1) c.toJson := by
  have hstring (s : String) : ((fun _ => ()) <$> Decoder.string).Reads depth (.string s) :=
    (Decoder.reads_string s depth).map _
  apply Record.reads_object _ _ c.ofJson_toJson
  . simp only [List.forall_mem_cons]
    exact ⟨⟨_, rfl, hstring _⟩, ⟨_, rfl, hstring _⟩, List.forall_mem_nil _⟩
  . simp

end Choice

namespace Bounds

def Mentions (b : Bounds) (w : Double) : Prop :=
  b.min = some w ∨ b.max = some w ∨ b.step = some w

def IsFinite (b : Bounds) : Prop := ∀ w, b.Mentions w → ∃ x, w = .finite x

def ReadsBack (b : Bounds) : Prop := ∀ x, b.Mentions (.finite x) → (Number.float x).ReadsBack

variable {b : Bounds}

theorem looksAtAll_record : record.LooksAtAll :=
  (((Record.looksAtAll_member _ _ _ _).map _).seq (Record.looksAtAll_member _ _ _ _)).seq
    (Record.looksAtAll_member _ _ _ _)

theorem build_record (h : b.IsFinite) {given : String → Option Json}
    (hmin : given "min" = b.min.map ofDouble) (hmax : given "max" = b.max.map ofDouble)
    (hstep : given "step" = b.step.map ofDouble)
    : record.build false given = .ok b := by
  have hread (w : Double) (hw : b.Mentions w)
      : (Decoder.nullable .binary).ofJson (ofDouble w) = .ok (some w) := by
    rcases h w hw with ⟨x, rfl⟩
    rfl
  have hmin : (Record.optional "min" (.nullable .binary) none).build false given = .ok b.min :=
    Record.build_optional_map hmin fun w hw => hread w (.inl hw)
  have hmax : (Record.optional "max" (.nullable .binary) none).build false given = .ok b.max :=
    Record.build_optional_map hmax fun w hw => hread w (.inr (.inl hw))
  have hstep : (Record.optional "step" (.nullable .binary) none).build false given = .ok b.step :=
    Record.build_optional_map hstep fun w hw => hread w (.inr (.inr hw))
  exact Record.build_seq (Record.build_seq (Record.build_map mk hmin) hmax) hstep

theorem toJson_eq (b : Bounds)
    : b.toJson
        =
      .object (stated [
        ("max", b.max.map ofDouble),
        ("min", b.min.map ofDouble),
        ("step", b.step.map ofDouble)]) := by
  rcases b with ⟨min, max, step⟩
  cases min <;> cases max <;> cases step <;> rfl

theorem declared_eq (b : Bounds)
    : b.declared
        =
      .object (stated [
        ("min", b.min.map ofDouble),
        ("max", b.max.map ofDouble),
        ("step", b.step.map ofDouble)]) := by
  rcases b with ⟨min, max, step⟩
  cases min <;> cases max <;> cases step <;> rfl

theorem ofJson_toJson (h : b.IsFinite) : decoder.ofJson b.toJson = .ok b := by
  rw [toJson_eq]
  apply Record.ofJson_stated looksAtAll_record
  . simp
  . exact build_record h rfl rfl rfl

theorem ofJson_declared (h : b.IsFinite) : decoder.ofJson b.declared = .ok b := by
  rw [declared_eq]
  apply Record.ofJson_stated looksAtAll_record
  . simp
  . exact build_record h rfl rfl rfl

theorem reads_declared (h : b.IsFinite) (hread : b.ReadsBack) (depth : Nat)
    : decoder.Reads (depth + 1) b.declared := by
  have hnumber (w : Double) (hw : b.Mentions w)
      : ((fun _ => ()) <$> Decoder.nullable .binary).Reads depth (ofDouble w) := by
    rcases h w hw with ⟨x, rfl⟩
    exact (Decoder.reads_nullableNumber (hread x hw) depth).map _
  have hfit := ofJson_declared h
  rw [declared_eq] at hfit ⊢
  apply Record.reads_object _ (nodup_names_stated (by simp)) hfit
  simp only [forall_mem_stated_iff, List.forall_mem_cons, Option.map_eq_some_iff]
  refine ⟨?_, ?_, ?_, List.forall_mem_nil _⟩
  . rintro _ ⟨w, hw, rfl⟩
    exact ⟨_, rfl, hnumber w (.inl hw)⟩
  . rintro _ ⟨w, hw, rfl⟩
    exact ⟨_, rfl, hnumber w (.inr (.inl hw))⟩
  . rintro _ ⟨w, hw, rfl⟩
    exact ⟨_, rfl, hnumber w (.inr (.inr hw))⟩

theorem nullable_reads_declared (h : b.IsFinite) (hread : b.ReadsBack) (depth : Nat)
    : decoder.nullable.Reads (depth + 1) b.declared := by
  apply (reads_declared h hread depth).nullable
  intro left hchars
  cases hchars

end Bounds

namespace Field

def storedChoices (f : Field) : Option Json :=
  if f.choices.isEmpty then none else some (.array (f.choices.map Choice.toJson))

variable {f : Field}

theorem looksAtAll_record : record.LooksAtAll :=
  (((((((Record.looksAtAll_member _ _ _ _).map _).seq
    (Record.looksAtAll_member _ _ _ _)).seq
    (Record.looksAtAll_member _ _ _ _)).seq
    (Record.looksAtAll_member _ _ _ _)).seq
    (Record.looksAtAll_member _ _ _ _)).seq
    (Record.looksAtAll_member _ _ _ _)).seq
    (Record.looksAtAll_member _ _ _ _)

theorem build_choices {given : String → Option Json} (h : given "options" = f.storedChoices)
    : (Record.optional "options" (.list Choice.decoder) []).build false given = .ok f.choices := by
  unfold storedChoices at h
  split at h
  . next hnone =>
    rw [List.isEmpty_iff.1 hnone]
    exact Record.build_optional_of_none h
  . apply Record.build_optional h
    apply Decoder.list_ofJson_map
    intro c _
    exact c.ofJson_toJson

structure Storable (f : Field) : Prop where
  kind : ∃ name, f.kind = .ofName name
  bounds : ∀ b, f.bounds = some b → b.IsFinite

theorem build_record (h : f.Storable) {given : String → Option Json} {toJson : Bounds → Json}
    (hread : ∀ b, f.bounds = some b → Bounds.decoder.nullable.ofJson (toJson b) = .ok (some b))
    (hkey : given "key" = some (.string f.key)) (hlabel : given "label" = some (.string f.label))
    (hkind : given "type" = some f.kind.toJson)
    (hrequired : given "required" = some (.bool f.required))
    (hchoices : given "options" = f.storedChoices)
    (hbounds : given "numericBounds" = f.bounds.map toJson)
    (hderived : given "isPersonalityDerived" = some (.bool f.personalityDerived))
    : record.build false given = .ok f := by
  have hkey : (Record.required "key" Decoder.string).build false given = .ok f.key :=
    Record.build_required hkey rfl
  have hlabel : (Record.required "label" Decoder.string).build false given = .ok f.label :=
    Record.build_required hlabel rfl
  have hkind : (Record.required "type" FieldKind.decoder).build false given = .ok f.kind :=
    Record.build_required hkind (FieldKind.ofJson_toJson h.kind)
  have hrequired : (Record.optional "required" Decoder.boolean false).build false given
      = .ok f.required :=
    Record.build_optional hrequired rfl
  have hbounds : (Record.optional "numericBounds" (.nullable Bounds.decoder) none).build false given
      = .ok f.bounds :=
    Record.build_optional_map hbounds hread
  have hderived : (Record.optional "isPersonalityDerived" Decoder.boolean false).build false given
      = .ok f.personalityDerived :=
    Record.build_optional hderived rfl
  exact Record.build_seq (Record.build_seq (Record.build_seq (Record.build_seq (Record.build_seq
    (Record.build_seq (Record.build_map mk hkey) hlabel) hkind) hrequired)
    (build_choices hchoices)) hbounds) hderived

theorem toJson_eq (f : Field)
    : f.toJson
        =
      .object (stated [
        ("isPersonalityDerived", some (.bool f.personalityDerived)),
        ("key", some (.string f.key)),
        ("label", some (.string f.label)),
        ("numericBounds", f.bounds.map Bounds.toJson),
        ("options", f.storedChoices),
        ("required", some (.bool f.required)),
        ("type", some f.kind.toJson)]) := by
  rcases f with ⟨key, label, kind, required, choices, bounds, derived⟩
  cases choices <;> cases bounds <;> rfl

theorem declared_eq (f : Field)
    : f.declared
        =
      .object (stated [
        ("key", some (.string f.key)),
        ("label", some (.string f.label)),
        ("type", some f.kind.toJson),
        ("required", some (.bool f.required)),
        ("options", f.storedChoices),
        ("numericBounds", f.bounds.map Bounds.declared),
        ("isPersonalityDerived", some (.bool f.personalityDerived))]) := by
  rcases f with ⟨key, label, kind, required, choices, bounds, derived⟩
  cases choices <;> cases bounds <;> rfl

theorem ofJson_toJson (h : f.Storable) : decoder.ofJson f.toJson = .ok f := by
  rw [toJson_eq]
  apply Record.ofJson_stated looksAtAll_record
  . simp
  . have hread (b : Bounds) (hb : f.bounds = some b)
        : Bounds.decoder.nullable.ofJson b.toJson = .ok (some b) :=
      Decoder.nullable_ofJson (Bounds.ofJson_toJson (h.bounds b hb)) nofun
    exact build_record h hread rfl rfl rfl rfl rfl rfl rfl

theorem ofJson_declared (h : f.Storable) : decoder.ofJson f.declared = .ok f := by
  rw [declared_eq]
  apply Record.ofJson_stated looksAtAll_record
  . simp
  . have hread (b : Bounds) (hb : f.bounds = some b)
        : Bounds.decoder.nullable.ofJson b.declared = .ok (some b) :=
      Decoder.nullable_ofJson (Bounds.ofJson_declared (h.bounds b hb)) nofun
    exact build_record h hread rfl rfl rfl rfl rfl rfl rfl

def BoundsReadBack (f : Field) : Prop := ∀ b, f.bounds = some b → b.ReadsBack

theorem reads_choices (f : Field) (depth : Nat) {j : Json} (hj : f.storedChoices = some j)
    : (Decoder.list Choice.decoder).Reads (depth + 2) j := by
  unfold storedChoices at hj
  split at hj
  . cases hj
  . cases hj
    apply Decoder.Reads.list
    intro j hj
    rcases List.mem_map.1 hj with ⟨c, _, rfl⟩
    exact c.reads_toJson depth

theorem reads_declared (h : f.Storable) (hread : f.BoundsReadBack) (depth : Nat)
    : decoder.Reads (depth + 3) f.declared := by
  have hstring (s : String) : ((fun _ => ()) <$> Decoder.string).Reads (depth + 2) (.string s) :=
    (Decoder.reads_string s _).map _
  have hboolean (b : Bool) : ((fun _ => ()) <$> Decoder.boolean).Reads (depth + 2) (.bool b) :=
    (Decoder.reads_boolean b _).map _
  have hkind : ((fun _ => ()) <$> FieldKind.decoder).Reads (depth + 2) f.kind.toJson :=
    (f.kind.reads_toJson _).map _
  have hfit := ofJson_declared h
  rw [declared_eq] at hfit ⊢
  apply Record.reads_object _ (nodup_names_stated (by simp)) hfit
  simp only [forall_mem_stated_iff, List.forall_mem_cons, Option.some.injEq, forall_eq',
    Option.map_eq_some_iff]
  refine ⟨⟨_, rfl, hstring _⟩, ⟨_, rfl, hstring _⟩, ⟨_, rfl, hkind⟩, ⟨_, rfl, hboolean _⟩, ?_, ?_,
    ⟨_, rfl, hboolean _⟩, List.forall_mem_nil _⟩
  . intro j hj
    exact ⟨_, rfl, (f.reads_choices depth hj).map _⟩
  . rintro _ ⟨b, hb, rfl⟩
    exact ⟨_, rfl, (Bounds.nullable_reads_declared (h.bounds b hb) (hread b hb) _).map _⟩

end Field

namespace Schema

variable {s : Schema}

theorem ofFields?_fields (s : Schema) : ofFields? s.fields = .ok s :=
  ofFields?_of_faultless s.faultless

theorem ofJson_toJson (h : ∀ f ∈ s.fields, f.Storable) : ofJson s.toJson = .ok s := by
  have hfields : (Decoder.list Field.decoder).ofJson s.toJson = .ok s.fields := by
    apply Decoder.list_ofJson_map
    intro f hf
    exact Field.ofJson_toJson (h f hf)
  unfold ofJson
  rw [hfields]
  dsimp only
  rw [ofFields?_fields]

theorem ofText_write (h : ∀ f ∈ s.fields, f.Storable) (hread : ∀ f ∈ s.fields, f.BoundsReadBack)
    : ofText s.write = .ok s := by
  have hfields : (Decoder.list Field.decoder).ofJson (.array (s.fields.map Field.declared))
      = .ok s.fields := by
    apply Decoder.list_ofJson_map
    intro f hf
    exact Field.ofJson_declared (h f hf)
  have hreads : (Decoder.list Field.decoder).Reads maxDepth
      (.array (s.fields.map Field.declared)) := by
    apply Decoder.Reads.list
    intro j hj
    rcases List.mem_map.1 hj with ⟨f, hf, rfl⟩
    exact Field.reads_declared (h f hf) (hread f hf) 123
  unfold ofText write
  rw [Decoder.ofText_write hreads hfields]
  dsimp only
  rw [ofFields?_fields]

/-- A schema whose types are those of names and whose bounds are finite is restored from its stored
form, and from the text of it if the texts of all bounds read as the bounds; stored again it gives
the same. For this a name of a known type is replaced by the one canonical name of the type, and
every other name is kept. -/
theorem survives_storage (s : Schema) (hkinds : ∀ f ∈ s.fields, ∃ name, f.kind = .ofName name)
    (hbounds : ∀ f ∈ s.fields, ∀ b, f.bounds = some b → b.IsFinite)
    : (ofJson s.toJson = .ok s ∧ ∀ t, ofJson s.toJson = .ok t → t.toJson = s.toJson)
        ∧ ((∀ f ∈ s.fields, f.BoundsReadBack) → ofText s.write = .ok s
          ∧ ∀ t, ofText s.write = .ok t → t.write = s.write)
        ∧ (∀ name, FieldKind.ofName (FieldKind.ofName name).name = FieldKind.ofName name)
        ∧ ∀ name, (FieldKind.ofName name).isKnown = false →
          (FieldKind.ofName name).name = Text.trim name := by
  have hstorable (f : Field) (hf : f ∈ s.fields) : f.Storable := ⟨hkinds f hf, hbounds f hf⟩
  have hjson := ofJson_toJson hstorable
  refine ⟨⟨hjson, ?_⟩, ?_, FieldKind.ofName_name_ofName,
    fun _ => FieldKind.name_ofName_of_not_isKnown⟩
  . intro t ht
    rw [hjson] at ht
    cases ht
    rfl
  . intro hread
    have htext := ofText_write hstorable hread
    refine ⟨htext, ?_⟩
    intro t ht
    rw [htext] at ht
    cases ht
    rfl

theorem survives_storage_stage
    : let twoFifths : Finite double := (Finite.ofInt double 2).div (.ofInt double 5)
      let sign : Field := { key := "sign", label := "\"A\"", kind := .ofName " E-Sign " }
      let stage : Field :=
        { key := "stage", label := "", kind := .ofName "SelectBoxes", required := true,
          choices := [⟨"", "seed"⟩, ⟨"Größe", "a"⟩] }
      let bounds : Bounds :=
        { min := some (.finite twoFifths), step := some (.finite (.ofInt double 1)) }
      let cheque : Field :=
        { key := "cheque", label := "Cheque", kind := .ofName "number", bounds := some bounds }
      ∃ h : firstFault? [] [sign, stage, cheque] = none,
        let s : Schema := ⟨[sign, stage, cheque], h⟩
        sign.kind = .unknown "E-Sign"
          ∧ stage.kind = .multiselect
          ∧ ofJson s.toJson = .ok s
          ∧ ofText s.write = .ok s
          ∧ sign.kind.name = Text.trim " E-Sign " := by
  intro twoFifths sign stage bounds cheque
  have hfaultless : firstFault? [] [sign, stage, cheque] = none := by decide +kernel
  refine ⟨hfaultless, ?_⟩
  intro s
  have hkinds : ∀ f ∈ s.fields, ∃ name, f.kind = .ofName name := by
    simp only [s, sign, stage, cheque, List.forall_mem_cons]
    exact ⟨⟨_, rfl⟩, ⟨_, rfl⟩, ⟨_, rfl⟩, List.forall_mem_nil _⟩
  have hbounds : ∀ f ∈ s.fields, ∀ b, f.bounds = some b → b = bounds := by
    simp only [s, List.forall_mem_cons]
    refine ⟨?_, ?_, ?_, List.forall_mem_nil _⟩
    . intro b hb
      cases hb
    . intro b hb
      cases hb
    . intro b hb
      cases hb
      rfl
  have hnumbers (w : Double) (hw : bounds.Mentions w)
      : ∃ x, w = .finite x ∧ (Number.float x).ReadsBack := by
    rcases hw with hw | hw | hw
    . cases hw
      exact ⟨twoFifths, rfl, by decide +kernel⟩
    . cases hw
    . cases hw
      exact ⟨.ofInt double 1, rfl, by decide +kernel⟩
  have hfinite (f : Field) (hf : f ∈ s.fields) (b : Bounds) (hb : f.bounds = some b)
      : b.IsFinite := by
    rw [hbounds f hf b hb]
    intro w hw
    rcases hnumbers w hw with ⟨x, hx, _⟩
    exact ⟨x, hx⟩
  have hread (f : Field) (hf : f ∈ s.fields) : f.BoundsReadBack := by
    intro b hb x hx
    rw [hbounds f hf b hb] at hx
    rcases hnumbers _ hx with ⟨y, hy, hread⟩
    cases hy
    exact hread
  have hsign : sign.kind = .unknown "E-Sign" := by decide +kernel
  have hstage : stage.kind = .multiselect := by decide +kernel
  have hunknown : (FieldKind.ofName " E-Sign ").isKnown = false := congrArg FieldKind.isKnown hsign
  have ⟨⟨hjson, _⟩, htext, _, hkept⟩ := survives_storage s hkinds hfinite
  exact ⟨hsign, hstage, hjson, (htext hread).1, hkept " E-Sign " hunknown⟩

end Schema

end Counterpart
