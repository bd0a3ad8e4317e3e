import Mathlib.Data.List.Nodup
import Mathlib.Data.List.Perm.Basic
import Counterpart.KeyMap

/-!
This module contains the laws of look-up in maps: what inserting changes, what a map built from a
list of entries holds, and that a map is determined by what look-up finds in it.
-/

namespace Counterpart

namespace KeyMap

variable {α : Type u}

theorem lookup_cons_ite (k : String) (e : String × α) (entries : List (String × α))
    : (e :: entries).lookup k = if k = e.1 then some e.2 else entries.lookup k := by
  rw [List.lookup_cons]
  split
  . next h => simp [eq_of_beq h]
  . next h => simp [ne_of_beq_false h]

theorem lookup_insertEntry (key : String) (value : α) (entries : List (String × α)) (k : String)
    : (insertEntry key value entries).lookup k
        =
      if k = key then some value else entries.lookup k := by
  induction entries with
  | nil =>
    unfold insertEntry
    rw [lookup_cons_ite]
  | cons e rest ih =>
    unfold insertEntry
    split
    . rw [lookup_cons_ite]
    . split
      . next heq =>
        rw [lookup_cons_ite, lookup_cons_ite, ← heq]
        split
        . rfl
        . rfl
      . next hne =>
        rw [lookup_cons_ite, lookup_cons_ite, ih]
        split
        . next hk =>
          rw [if_neg]
          intro h
          exact hne (h.symm.trans hk)
        . rfl

@[simp]
theorem get?_insert (m : KeyMap α) (key : String) (value : α) (k : String)
    : (m.insert key value).get? k = if k = key then some value else m.get? k := by
  apply lookup_insertEntry

@[simp]
theorem get?_empty (k : String) : (empty : KeyMap α).get? k = none := by
  rfl

theorem get?_foldl_insert (entries : List (String × α)) (m : KeyMap α) (k : String)
    : (entries.foldl (fun m (key, value) => m.insert key value) m).get? k
        =
      (entries.reverse.lookup k).or (m.get? k) := by
  induction entries generalizing m with
  | nil => simp
  | cons e rest ih =>
    rw [List.foldl_cons, ih, get?_insert]
    rw [List.reverse_cons, List.lookup_append, Option.or_assoc, lookup_cons_ite]
    split
    . simp
    . simp

theorem get?_ofList (entries : List (String × α)) (k : String)
    : (ofList entries).get? k = entries.reverse.lookup k := by
  unfold ofList
  rw [get?_foldl_insert]
  simp

theorem mem_of_lookup {entries : List (String × α)} {k : String} {value : α}
    (h : entries.lookup k = some value)
    : (k, value) ∈ entries := by
  rcases List.lookup_eq_some_iff.1 h with ⟨before, after, hentries, _⟩
  simp [hentries]

theorem lookup_eq_some_iff {entries : List (String × α)} (h : (entries.map Prod.fst).Nodup)
    {k : String} {value : α}
    : entries.lookup k = some value ↔ (k, value) ∈ entries := by
  induction entries with
  | nil => simp
  | cons e rest ih =>
    have ⟨hhead, htail⟩ := List.nodup_cons.1 h
    rw [lookup_cons_ite, List.mem_cons]
    split
    . next hk =>
      have hnot : (k, value) ∉ rest := by
        intro hmem
        apply hhead
        rw [← hk]
        exact List.mem_map_of_mem hmem
      rw [Option.some_inj]
      constructor
      . intro hvalue
        exact .inl (Prod.ext hk hvalue.symm)
      . rintro (heq | hmem)
        . exact (congrArg Prod.snd heq).symm
        . exact absurd hmem hnot
    . next hk =>
      have hne : (k, value) ≠ e := fun heq => hk (congrArg Prod.fst heq)
      rw [ih htail]
      simp [hne]

theorem nodup_keys (m : KeyMap α) : (m.entries.map Prod.fst).Nodup := by
  apply m.sorted.imp
  intro a b hlt heq
  apply String.lt_irrefl b
  rwa [heq] at hlt

theorem get?_eq_some_iff (m : KeyMap α) {k : String} {value : α}
    : m.get? k = some value ↔ (k, value) ∈ m.entries := by
  apply lookup_eq_some_iff
  apply nodup_keys

theorem get?_ofList_eq_some_iff {entries : List (String × α)}
    (h : (entries.map Prod.fst).Nodup) {k : String} {value : α}
    : (ofList entries).get? k = some value ↔ (k, value) ∈ entries := by
  rw [get?_ofList, lookup_eq_some_iff]
  . simp
  . rwa [List.map_reverse, List.nodup_reverse]

theorem mem_of_mem_ofList {entries : List (String × α)} {e : String × α}
    (h : e ∈ (ofList entries).entries)
    : e ∈ entries := by
  rw [← get?_eq_some_iff, get?_ofList] at h
  exact List.mem_reverse.1 (mem_of_lookup h)

theorem contains_ofList (entries : List (String × α)) (k : String)
    : (ofList entries).contains k = true ↔ k ∈ entries.map Prod.fst := by
  unfold contains
  rw [get?_ofList, List.lookup_isSome_iff, List.mem_map]
  simp only [List.mem_reverse, beq_iff_eq, @eq_comm _ k]

theorem mem_keys_iff {m : KeyMap α} {k : String} : k ∈ m.keys ↔ ∃ value, m.get? k = some value := by
  unfold keys
  simp [get?_eq_some_iff]

theorem isEmpty_iff (m : KeyMap α) : m.isEmpty = true ↔ ∀ k, m.get? k = none := by
  unfold isEmpty
  rw [List.isEmpty_iff]
  constructor
  . intro h k
    simp [get?, h]
  . intro h
    apply List.eq_nil_iff_forall_not_mem.2
    intro e he
    have hsome := m.get?_eq_some_iff.2 he
    rw [h] at hsome
    cases hsome

theorem ext_get? {m n : KeyMap α} (h : ∀ k, m.get? k = n.get? k) : m = n := by
  have hmem : ∀ e, e ∈ m.entries ↔ e ∈ n.entries := by
    intro e
    rw [← get?_eq_some_iff, ← get?_eq_some_iff, h]
  have hperm : m.entries.Perm n.entries := by
    apply (List.perm_ext_iff_of_nodup _ _).2 hmem
    . exact m.nodup_keys.of_map
    . exact n.nodup_keys.of_map
  have hentries : m.entries = n.entries := by
    have hm := List.pairwise_map.1 m.sorted
    have hn := List.pairwise_map.1 n.sorted
    refine List.Perm.eq_of_pairwise ?_ hm hn hperm
    intro a b _ _ hab hba
    exact absurd (String.lt_trans hab hba) (String.lt_irrefl _)
  cases m
  cases n
  cases hentries
  rfl

theorem eq_empty_of_isEmpty {m : KeyMap α} (h : m.isEmpty = true) : m = ∅ := by
  apply ext_get?
  intro k
  rw [m.isEmpty_iff.1 h]
  rfl

theorem size_map {β : Type u} (m : KeyMap α) (f : α → β) : (m.map f).size = m.size := by
  unfold size map
  apply List.length_map

theorem values_map {β : Type u} (m : KeyMap α) (f : α → β)
    : (m.map f).values = m.values.map f := by
  unfold values map
  simp

section Keyed

variable {β : Type v} (key : β → String) {xs : List β}

theorem find?_key_eq_some_iff (h : (xs.map key).Nodup) {k : String} {x : β}
    : xs.find? (key · == k) = some x ↔ x ∈ xs ∧ key x = k := by
  constructor
  . intro hx
    have hkey := List.find?_some hx
    exact ⟨List.mem_of_find?_eq_some hx, by simpa using hkey⟩
  . rintro ⟨hx, rfl⟩
    cases hfind : xs.find? (key · == key x) with
    | none =>
      have := List.find?_eq_none.1 hfind x hx
      simp at this
    | some y =>
      have hkey := List.find?_some hfind
      have hy := List.mem_of_find?_eq_some hfind
      rw [List.inj_on_of_nodup_map h hy hx (by simpa using hkey)]

variable (g : β → Option α)

theorem nodup_keys_filterMap (h : (xs.map key).Nodup)
    : ((xs.filterMap fun x => (g x).map (key x, ·)).map Prod.fst).Nodup := by
  refine List.Nodup.sublist ?_ h
  clear h
  induction xs with
  | nil => simp
  | cons x rest ih =>
    cases hx : g x with
    | none => simpa [hx] using ih.cons (key x)
    | some a => simpa [hx] using ih

theorem get?_ofList_filterMap (h : (xs.map key).Nodup) (k : String)
    : (ofList (xs.filterMap fun x => (g x).map (key x, ·))).get? k
        =
      (xs.find? (key · == k)).bind g := by
  apply Option.ext
  intro a
  rw [get?_ofList_eq_some_iff (nodup_keys_filterMap key g h)]
  rw [List.mem_filterMap, Option.bind_eq_some_iff]
  constructor
  . rintro ⟨x, hx, hg⟩
    rcases Option.map_eq_some_iff.1 hg with ⟨b, hb, heq⟩
    cases heq
    exact ⟨x, (find?_key_eq_some_iff key h).2 ⟨hx, rfl⟩, hb⟩
  . rintro ⟨x, hx, hg⟩
    rcases (find?_key_eq_some_iff key h).1 hx with ⟨hmem, rfl⟩
    exact ⟨x, hmem, by simp [hg]⟩

theorem get?_ofList_filterMap_eq_some_iff (h : (xs.map key).Nodup) {k : String} {a : α}
    : (ofList (xs.filterMap fun x => (g x).map (key x, ·))).get? k = some a
        ↔
      ∃ x ∈ xs, key x = k ∧ g x = some a := by
  rw [get?_ofList_filterMap key g h, Option.bind_eq_some_iff]
  simp only [find?_key_eq_some_iff key h, and_assoc]

theorem isEmpty_ofList_filterMap_iff (h : (xs.map key).Nodup)
    : (ofList (xs.filterMap fun x => (g x).map (key x, ·))).isEmpty = true
        ↔
      ∀ x ∈ xs, g x = none := by
  rw [isEmpty_iff]
  simp only [Option.eq_none_iff_forall_ne_some, ne_eq, get?_ofList_filterMap_eq_some_iff key g h,
    not_exists, not_and]
  constructor
  . intro hall x hx a
    exact hall (key x) a x hx rfl
  . intro hall k a x hx _
    exact hall x hx a

end Keyed

theorem perm_entries_ofList {entries : List (String × α)} (h : (entries.map Prod.fst).Nodup)
    : (ofList entries).entries.Perm entries := by
  apply (List.perm_ext_iff_of_nodup (nodup_keys _).of_map h.of_map).2
  intro e
  rw [← get?_eq_some_iff, get?_ofList_eq_some_iff h]

theorem ofList_entries (m : KeyMap α) : ofList m.entries = m := by
  apply ext_get?
  intro k
  apply Option.ext
  intro a
  rw [get?_ofList_eq_some_iff m.nodup_keys, get?_eq_some_iff]

theorem ofList_perm {entries more : List (String × α)} (h : entries.Perm more)
    (hkeys : (entries.map Prod.fst).Nodup)
    : ofList entries = ofList more := by
  apply ext_get?
  intro k
  apply Option.ext
  intro a
  rw [get?_ofList_eq_some_iff hkeys, get?_ofList_eq_some_iff ((h.map Prod.fst).nodup hkeys)]
  apply h.mem_iff

end KeyMap

end Counterpart
