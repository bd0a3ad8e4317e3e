/-!
This module contains maps from text to values whose entries are kept in the order of their keys,
each key once. Two maps with the same entries are the same map.
-/

namespace Counterpart

structure KeyMap (α : Type u) where
  entries : List (String × α)
  sorted : (entries.map Prod.fst).Pairwise (· < ·)
  deriving DecidableEq

namespace KeyMap

variable {α β : Type u}

def empty : KeyMap α := ⟨[], .nil⟩

instance : EmptyCollection (KeyMap α) := ⟨empty⟩

instance : Inhabited (KeyMap α) := ⟨empty⟩

def insertEntry (key : String) (value : α) : List (String × α) → List (String × α)
  | [] => [(key, value)]
  | (k, v) :: rest =>
    if key < k then
      (key, value) :: (k, v) :: rest
    else if key = k then
      (key, value) :: rest
    else
      (k, v) :: insertEntry key value rest

theorem mem_keys_insertEntry {key k : String} {value : α} {entries : List (String × α)}
    (h : k ∈ (insertEntry key value entries).map Prod.fst)
    : k = key ∨ k ∈ entries.map Prod.fst := by
  induction entries with
  | nil => simpa [insertEntry] using h
  | cons e rest ih =>
    unfold insertEntry at h
    split at h
    . simpa using h
    . split at h
      . simp only [List.map_cons, List.mem_cons] at h ⊢
        rcases h with h | h
        . exact .inl h
        . exact .inr (.inr h)
      . simp only [List.map_cons, List.mem_cons] at h ⊢
        rcases h with h | h
        . exact .inr (.inl h)
        . rcases ih h with h | h
          . exact .inl h
          . exact .inr (.inr h)

theorem sorted_insertEntry (key : String) (value : α) {entries : List (String × α)}
    (h : (entries.map Prod.fst).Pairwise (· < ·))
    : ((insertEntry key value entries).map Prod.fst).Pairwise (· < ·) := by
  induction entries with
  | nil => simp [insertEntry]
  | cons e rest ih =>
    have ⟨hhead, htail⟩ := List.pairwise_cons.1 h
    unfold insertEntry
    split
    . rename_i hlt
      refine List.pairwise_cons.2 ⟨?_, h⟩
      intro k hk
      rcases List.mem_cons.1 hk with hk | hk
      . exact hk ▸ hlt
      . exact String.lt_trans hlt (hhead k hk)
    . split
      . rename_i heq
        subst heq
        exact List.pairwise_cons.2 ⟨hhead, htail⟩
      . rename_i hlt hne
        refine List.pairwise_cons.2 ⟨?_, ih htail⟩
        intro k hk
        rcases mem_keys_insertEntry hk with hk | hk
        . subst hk
          exact Std.lt_of_le_of_ne (Std.not_lt.1 hlt) (Ne.symm hne)
        . exact hhead k hk

def insert (m : KeyMap α) (key : String) (value : α) : KeyMap α :=
  ⟨insertEntry key value m.entries, sorted_insertEntry key value m.sorted⟩

def get? (m : KeyMap α) (key : String) : Option α := m.entries.lookup key

def contains (m : KeyMap α) (key : String) : Bool := (m.get? key).isSome

def keys (m : KeyMap α) : List String := m.entries.map Prod.fst

def values (m : KeyMap α) : List α := m.entries.map Prod.snd

def size (m : KeyMap α) : Nat := m.entries.length

def isEmpty (m : KeyMap α) : Bool := m.entries.isEmpty

def ofList (entries : List (String × α)) : KeyMap α :=
  entries.foldl (fun m (key, value) => m.insert key value) empty

def map (f : α → β) (m : KeyMap α) : KeyMap β :=
  ⟨m.entries.map fun (key, value) => (key, f value), by simpa [Function.comp_def] using m.sorted⟩

end KeyMap

end Counterpart
