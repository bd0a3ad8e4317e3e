import Counterpart.Proofs.Json.Scan

/-!
This module contains that the text of a value reads as the value, whatever type it is read for
afterwards, and that the text of a map is read if those of its values are.
-/

namespace Counterpart.Json

open Text (Reader)

theorem readsScalar_null : ReadsScalar .null :=
  ⟨⟨'n', ['u', 'l', 'l'], rfl, rfl⟩, fun _ => rfl⟩

section Parts

variable {part : Reader β} {text : β → List Char} {close : Char}

theorem readParts_separated (hclose : Closes close) {bs : List β} {b : β}
    (hread : ∀ a ∈ b :: bs, ∀ rest, Stops rest → part (text a ++ rest) = some (a, rest))
    {fuel : Nat} (hfuel : bs.length < fuel) (rest : List Char)
    : parts part close fuel (separated text (b :: bs) ++ close :: rest) = some (b :: bs, rest) := by
  induction bs generalizing b fuel with
  | nil =>
    obtain ⟨fuel, rfl⟩ := Nat.exists_eq_succ_of_ne_zero (Nat.ne_zero_of_lt hfuel)
    rw [parts, separated, hread b List.mem_cons_self _ (hclose.stops rest)]
    dsimp only
    rw [hclose.skipBlanks_eq]
    exact if_pos rfl
  | cons c bs ih =>
    obtain ⟨fuel, rfl⟩ := Nat.exists_eq_succ_of_ne_zero (Nat.ne_zero_of_lt hfuel)
    rcases List.forall_mem_cons.1 hread with ⟨hhead, htail⟩
    have hcomma (left : List Char) : Stops (',' :: left) := stops_cons rfl left
    rw [parts, separated, List.append_assoc, List.cons_append, hhead _ (hcomma _)]
    . dsimp only
      rw [skipBlanks_cons rfl]
      dsimp only
      rw [if_neg hclose.comma_ne, if_pos rfl, ih htail]
      . rfl
      . simpa using hfuel
    . simp

theorem readContainer_separated (hclose : Closes close) {bs : List β}
    (hopens : ∀ b ∈ bs, ∃ c left, text b = c :: left ∧ opensValue c = true)
    (hread : ∀ b ∈ bs, ∀ rest, Stops rest → part (text b ++ rest) = some (b, rest))
    (rest : List Char)
    : container part close (separated text bs ++ close :: rest) = some (bs, rest) := by
  unfold container
  cases bs with
  | nil =>
    rw [separated, List.nil_append, hclose.skipBlanks_eq]
    exact if_pos rfl
  | cons b bs =>
    have hlength := length_le_length_separated text b bs
    rcases exists_opens_separated hopens with ⟨c, left, htext, hc⟩
    rw [htext, List.cons_append, skipBlanks_cons (isBlank_of_opensValue hc)]
    dsimp only
    rw [if_neg (hclose.ne_of_opensValue hc), ← List.cons_append, ← htext]
    apply readParts_separated hclose hread
    rw [List.length_append, List.length_cons]
    omega

end Parts

theorem opens_memberChars (m : String × Json)
    : ∃ c left, memberChars m = c :: left ∧ opensValue c = true :=
  ⟨'"', _, rfl, rfl⟩

structure ReadsValue (depth : Nat) (j : Json) : Prop where
  opens : ∃ c left, j.chars = c :: left ∧ opensValue c = true
  value : ∀ rest, Stops rest → value depth (j.chars ++ rest) = some (j, rest)

variable {depth : Nat} {j : Json}

theorem ReadsScalar.readsValue (h : j.ReadsScalar) (depth : Nat) : ReadsValue depth j := by
  rcases h.opens with ⟨c, left, hchars, hc⟩
  have hopens := opensValue_of_opensScalar hc
  refine ⟨⟨c, left, hchars, hopens⟩, ?_⟩
  intro rest hrest
  have hscalar := h.scalar hrest
  rw [hchars, List.cons_append] at hscalar ⊢
  cases depth with
  | zero => rw [value, skipBlanks_cons (isBlank_of_opensValue hopens), hscalar]
  | succ depth =>
    rw [value, skipBlanks_cons (isBlank_of_opensValue hopens)]
    split
    . next heq =>
      cases heq
      cases hc
    . next heq =>
      cases heq
      cases hc
    . exact hscalar

theorem ReadsValue.array {items : List Json} (h : ∀ j ∈ items, ReadsValue depth j)
    : ReadsValue (depth + 1) (.array items) := by
  refine ⟨⟨'[', _, rfl, rfl⟩, ?_⟩
  intro rest _
  have hcontainer := readContainer_separated (.inl rfl) (fun j hj => (h j hj).opens)
    (fun j hj => (h j hj).value) rest
  rw [chars, itemsChars_eq, List.cons_append, List.append_assoc]
  rw [Json.value, skipBlanks_cons rfl, List.cons_append, List.nil_append]
  simp only [hcontainer, Option.map_some]

theorem ReadsValue.object {members : List (String × Json)}
    (h : ∀ m ∈ members, ReadsValue depth m.2)
    : ReadsValue (depth + 1) (.object members) := by
  refine ⟨⟨'\x7b', _, rfl, rfl⟩, ?_⟩
  intro rest _
  have hmember (m : String × Json) (hm : m ∈ members) (rest : List Char) (hrest : Stops rest)
      : member (Json.value depth) (memberChars m ++ rest) = some (m, rest) := by
    unfold member memberChars
    rw [List.append_assoc, List.cons_append, Record.key_stringChars]
    dsimp only [bind, Option.bind]
    rw [Record.colon_cons]
    dsimp only
    rw [(h m hm).value rest hrest]
  have hcontainer := readContainer_separated (.inr rfl) (fun m _ => opens_memberChars m) hmember rest
  rw [chars, membersChars_eq, List.cons_append, List.append_assoc]
  rw [Json.value, skipBlanks_cons rfl, List.cons_append, List.nil_append]
  simp only [hcontainer, Option.map_some]

namespace Decoder

variable {d : Decoder α} {a : α}

theorem reads_ofValue {ofJson : Json → Except DecodeError α} (h : ReadsValue depth j)
    (hfit : ofJson j = .ok a)
    : (ofValue ofJson).Reads depth j := by
  refine ⟨h.opens, ?_⟩
  intro rest hrest
  unfold ofValue
  dsimp only
  rw [h.value rest hrest]
  dsimp only
  unfold fitting
  rw [hfit]

theorem Reads.keyMap {members : List (String × Json)} (h : ∀ m ∈ members, d.Reads depth m.2)
    : d.map.Reads (depth + 1) (.object members) := by
  refine ⟨⟨'\x7b', _, rfl, rfl⟩, ?_⟩
  intro rest _
  have hparts (before : List (String × Json))
      : ReadsParts (map.member d depth) memberChars before members := by
    induction members generalizing before with
    | nil => exact .nil before
    | cons m members ih =>
      have ⟨hhead, htail⟩ := List.forall_mem_cons.1 h
      apply ReadsParts.cons
      . intro rest hrest
        unfold map.member memberChars Scanner.ofReader
        rw [List.append_assoc, List.cons_append, Record.key_stringChars]
        dsimp only [bind, Except.bind]
        rw [Record.colon_cons]
        dsimp only
        rw [hhead.scan rest hrest]
        rfl
      . exact ih htail (m :: before)
  have hcontainer := container_separated (.inr rfl) (fun m _ => opens_memberChars m) (hparts []) rest
  rw [List.append_nil] at hcontainer
  rw [chars, membersChars_eq, List.cons_append, List.append_assoc]
  simp only [Decoder.map]
  rw [skipBlanks_cons rfl]
  simp only [List.nil_append, List.cons_append]
  rw [hcontainer]
  simp [bind, Except.bind, pure, Except.pure]

theorem mapM_entries {toJson : α → Json} {entries : List (String × α)}
    (h : ∀ e ∈ entries, d.ofJson (toJson e.2) = .ok e.2)
    : ((entries.map fun (key, a) => (key, toJson a)).mapM fun (key, j) => do
          return (key, ← d.ofJson j))
        =
      Except.ok entries := by
  induction entries with
  | nil => rfl
  | cons e entries ih =>
    have ⟨hhead, htail⟩ := List.forall_mem_cons.1 h
    rw [List.map_cons, List.mapM_cons, ih htail]
    dsimp only
    rw [hhead]
    rfl

theorem map_ofJson_ofMap {toJson : α → Json} {m : KeyMap α}
    (h : ∀ a ∈ m.values, d.ofJson (toJson a) = .ok a)
    : d.map.ofJson (.ofMap (m.map toJson)) = .ok m := by
  have hvalues (e : String × α) (he : e ∈ m.entries) : d.ofJson (toJson e.2) = .ok e.2 :=
    h e.2 (List.mem_map_of_mem he)
  simp only [Decoder.map, map.ofJson, Json.ofMap, KeyMap.map]
  rw [mapM_entries hvalues]
  exact congrArg Except.ok m.ofList_entries

end Decoder

end Counterpart.Json
