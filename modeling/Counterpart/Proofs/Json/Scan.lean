import Counterpart.Json.Record
import Counterpart.Proofs.Json.Scalar
import Counterpart.Proofs.KeyMap

/-!
This module contains that typed reading of a written text finds the value that was written. What is
read in this way composes: a list is, if its items are, and a record, if its members are.
-/

namespace Counterpart.Json

def opensValue (c : Char) : Bool := !(isBlank c || c == ']' || c == '\x7d')

theorem opensValue_of_opensScalar {c : Char} (h : opensScalar c = true) : opensValue c = true := by
  unfold opensScalar at h
  unfold opensValue
  simp_all

theorem skipBlanks_cons {c : Char} (h : isBlank c = false) (cs : List Char)
    : skipBlanks (c :: cs) = c :: cs := by
  simp [skipBlanks, h]

section Parts

variable {part : List β → Scanner (List β)} {text : β → List Char} {close : Char}

def separated (text : β → List Char) : List β → List Char
  | [] => []
  | [b] => text b
  | b :: bs => text b ++ ',' :: separated text bs

def memberChars (m : String × Json) : List Char := stringChars m.1 ++ ':' :: m.2.chars

theorem itemsChars_eq (items : List Json) : itemsChars items = separated chars items := by
  induction items with
  | nil => rfl
  | cons j js ih =>
    cases js with
    | nil => rfl
    | cons k ks =>
      unfold itemsChars separated
      rw [ih]

theorem membersChars_eq (members : List (String × Json))
    : membersChars members = separated memberChars members := by
  induction members with
  | nil => rfl
  | cons m ms ih =>
    cases ms with
    | nil => rfl
    | cons k ks =>
      rw [membersChars, separated, ih]
      . simp [memberChars]
      . simp
      . simp

theorem length_le_length_separated (text : β → List Char) (b : β) (bs : List β)
    : bs.length ≤ (separated text (b :: bs)).length := by
  induction bs generalizing b with
  | nil => exact Nat.zero_le _
  | cons c bs ih =>
    have := ih c
    simp only [separated, List.length_append, List.length_cons] at this ⊢
    omega

/-- Whether the texts of parts are read one after another, each part being put before those that
were read earlier. -/
inductive ReadsParts (part : List β → Scanner (List β)) (text : β → List Char) :
    List β → List β → Prop where
  | nil (before : List β) : ReadsParts part text before []
  | cons {before bs : List β} {b : β}
    (head : ∀ rest, Stops rest → part before (text b ++ rest) = .ok (b :: before, rest))
    (tail : ReadsParts part text (b :: before) bs) : ReadsParts part text before (b :: bs)

def Closes (c : Char) : Prop := c = ']' ∨ c = '\x7d'

theorem Closes.stops (h : Closes close) (rest : List Char) : Stops (close :: rest) := by
  rcases h with rfl | rfl
  . exact stops_cons rfl rest
  . exact stops_cons rfl rest

theorem Closes.skipBlanks_eq (h : Closes close) (rest : List Char)
    : skipBlanks (close :: rest) = close :: rest := by
  rcases h with rfl | rfl
  . rfl
  . rfl

theorem Closes.comma_ne (h : Closes close) : ',' ≠ close := by
  rcases h with rfl | rfl
  . decide
  . decide

theorem Closes.ne_of_opensValue (h : Closes close) {c : Char} (hc : opensValue c = true)
    : c ≠ close := by
  unfold opensValue at hc
  rcases h with rfl | rfl
  . intro heq
    simp [heq] at hc
  . intro heq
    simp [heq] at hc

theorem isBlank_of_opensValue {c : Char} (h : opensValue c = true) : isBlank c = false := by
  unfold opensValue at h
  simp_all

theorem parts_separated (hclose : Closes close) {before bs : List β} {b : β}
    (h : ReadsParts part text before (b :: bs)) {fuel : Nat} (hfuel : bs.length < fuel)
    (rest : List Char)
    : Scanner.parts part close fuel before (separated text (b :: bs) ++ close :: rest)
        =
      .ok (bs.reverse ++ b :: before, rest) := by
  induction bs generalizing b before fuel with
  | nil =>
    obtain ⟨fuel, rfl⟩ := Nat.exists_eq_succ_of_ne_zero (Nat.ne_zero_of_lt hfuel)
    cases h with
    | cons head _ =>
      rw [Scanner.parts, separated, head _ (hclose.stops rest)]
      dsimp only
      rw [hclose.skipBlanks_eq]
      exact if_pos rfl
  | cons c bs ih =>
    obtain ⟨fuel, rfl⟩ := Nat.exists_eq_succ_of_ne_zero (Nat.ne_zero_of_lt hfuel)
    cases h with
    | cons head tail =>
      -- A comma ends the text of a part as the closing mark does.
      have hcomma (left : List Char) : Stops (',' :: left) := stops_cons rfl left
      rw [Scanner.parts, separated, List.append_assoc, List.cons_append, head _ (hcomma _)]
      . dsimp only
        rw [skipBlanks_cons rfl]
        dsimp only
        rw [if_neg hclose.comma_ne, if_pos rfl, ih tail]
        . simp
        . simpa using hfuel
      . simp

theorem exists_opens_separated {b : β} {bs : List β}
    (hopens : ∀ a ∈ b :: bs, ∃ c left, text a = c :: left ∧ opensValue c = true)
    : ∃ c left, separated text (b :: bs) = c :: left ∧ opensValue c = true := by
  rcases hopens b List.mem_cons_self with ⟨c, left, htext, hc⟩
  cases bs with
  | nil => exact ⟨c, left, htext, hc⟩
  | cons d bs =>
    rw [separated, htext]
    . exact ⟨c, _, rfl, hc⟩
    . simp

theorem container_separated (hclose : Closes close) {before bs : List β}
    (hopens : ∀ b ∈ bs, ∃ c left, text b = c :: left ∧ opensValue c = true)
    (h : ReadsParts part text before bs) (rest : List Char)
    : Scanner.container part close before (separated text bs ++ close :: rest)
        =
      .ok (bs.reverse ++ before, rest) := by
  unfold Scanner.container
  cases bs with
  | nil =>
    rw [separated, List.nil_append, hclose.skipBlanks_eq]
    exact if_pos rfl
  | cons b bs =>
    have hlength := length_le_length_separated text b bs
    rcases exists_opens_separated hopens with ⟨c, left, htext, hc⟩
    rw [htext, List.cons_append, skipBlanks_cons (isBlank_of_opensValue hc)]
    dsimp only
    rw [if_neg (hclose.ne_of_opensValue hc), ← List.cons_append, ← htext]
    rw [parts_separated hclose h]
    . simp
    . rw [List.length_append, List.length_cons]
      omega

end Parts

namespace Decoder

structure Reads (d : Decoder α) (depth : Nat) (j : Json) : Prop where
  opens : ∃ c left, j.chars = c :: left ∧ opensValue c = true
  scan : ∀ rest, Stops rest → d.scan depth (j.chars ++ rest) = .ok (j, rest)

variable {d : Decoder α} {depth : Nat} {j : Json} {a : α}

theorem scanScalar_chars {ofJson : Json → Except DecodeError α} (h : j.ReadsScalar)
    (hfit : ofJson j = .ok a) {rest : List Char} (hrest : Stops rest)
    : scanScalar ofJson (j.chars ++ rest) = .ok (j, rest) := by
  have hscalar := h.scalar hrest
  rcases h.opens with ⟨c, left, hchars, hc⟩
  rw [hchars, List.cons_append] at hscalar ⊢
  have hopens := isBlank_of_opensValue (opensValue_of_opensScalar hc)
  unfold scanScalar
  rw [skipBlanks_cons hopens]
  split
  . next heq =>
    cases heq
    cases hc
  . next heq =>
    cases heq
    cases hc
  . rw [hscalar]
    dsimp only
    unfold fitting
    rw [hfit]

theorem reads_ofScalar {ofJson : Json → Except DecodeError α} (h : j.ReadsScalar)
    (hfit : ofJson j = .ok a) (depth : Nat)
    : (ofScalar ofJson).Reads depth j := by
  rcases h.opens with ⟨c, left, hchars, hc⟩
  exact ⟨⟨c, left, hchars, opensValue_of_opensScalar hc⟩, fun _ => scanScalar_chars h hfit⟩

theorem reads_string (s : String) (depth : Nat) : string.Reads depth (.string s) := by
  unfold string
  apply reads_ofScalar (readsScalar_string s)
  rfl

theorem reads_boolean (b : Bool) (depth : Nat) : boolean.Reads depth (.bool b) := by
  unfold boolean
  apply reads_ofScalar (readsScalar_bool b)
  rfl

theorem reads_double {n : Number} (h : n.ReadsBack) (depth : Nat)
    : double.Reads depth (.number n) := by
  unfold double
  apply reads_ofScalar (readsScalar_number h)
  rfl

theorem Reads.map (f : α → β) (h : d.Reads depth j) : (f <$> d).Reads depth j :=
  ⟨h.opens, h.scan⟩

theorem Reads.nullable (h : d.Reads depth j) (hnull : ∀ left, j.chars ≠ 'n' :: left)
    : d.nullable.Reads depth j := by
  refine ⟨h.opens, ?_⟩
  intro rest hrest
  have hscan := h.scan rest hrest
  rcases h.opens with ⟨c, left, hchars, hc⟩
  rw [hchars, List.cons_append] at hscan ⊢
  simp only [Decoder.nullable]
  rw [skipBlanks_cons (isBlank_of_opensValue hc)]
  split
  . next heq =>
    cases heq
    exact absurd hchars (hnull left)
  . exact hscan

theorem reads_nullableNumber {f : Numeric.Finite Numeric.double → α} {n : Number}
    (h : n.ReadsBack) (depth : Nat)
    : (f <$> double).nullable.Reads depth (.number n) := by
  apply ((reads_double h depth).map f).nullable
  -- A number does not start like a null.
  intro left hchars
  rcases exists_startsNumber h with ⟨c, _, hnumber, hc⟩
  cases hnumber.symm.trans hchars
  cases hc

theorem reads_choice {variants : List (String × α)} {name : String}
    (h : variants.lookup name = some a) (depth : Nat)
    : (choice variants).Reads depth (.string name) := by
  refine ⟨⟨'"', _, rfl, rfl⟩, ?_⟩
  intro rest hrest
  have hname : choice.name variants (.string name) = .ok () := by
    simp only [choice.name, variant, h]
    rfl
  exact scanScalar_chars (readsScalar_string name) hname hrest

theorem Reads.list {items : List Json} (h : ∀ j ∈ items, d.Reads depth j)
    : d.list.Reads (depth + 1) (.array items) := by
  refine ⟨⟨'[', _, rfl, rfl⟩, ?_⟩
  intro rest _
  have hparts (before : List Json) : ReadsParts (list.item d depth) chars before items := by
    induction items generalizing before with
    | nil => exact .nil before
    | cons j items ih =>
      have ⟨hhead, htail⟩ := List.forall_mem_cons.1 h
      apply ReadsParts.cons
      . intro rest hrest
        unfold list.item
        rw [hhead.scan rest hrest]
        rfl
      . exact ih htail (j :: before)
  have hcontainer := container_separated (.inl rfl) (fun j hj => (h j hj).opens) (hparts []) rest
  rw [List.append_nil] at hcontainer
  rw [chars, itemsChars_eq, List.cons_append, List.append_assoc]
  simp only [Decoder.list]
  rw [skipBlanks_cons rfl]
  simp only [List.nil_append, List.cons_append]
  rw [hcontainer]
  simp [bind, Except.bind, pure, Except.pure]

theorem list_ofJson_map {toJson : α → Json} {as : List α}
    (h : ∀ a ∈ as, d.ofJson (toJson a) = .ok a)
    : d.list.ofJson (.array (as.map toJson)) = .ok as := by
  simp only [Decoder.list, list.ofJson]
  induction as with
  | nil => rfl
  | cons a as ih =>
    have ⟨hhead, htail⟩ := List.forall_mem_cons.1 h
    rw [List.map_cons, List.mapM_cons, hhead, ih htail]
    rfl

theorem ofText_write (h : d.Reads maxDepth j) (hfit : d.ofJson j = .ok a)
    : d.ofText j.write = .ok a := by
  have hscan := h.scan [] stops_nil
  rw [List.append_nil] at hscan
  unfold ofText write
  rw [String.toList_ofList, hscan]
  dsimp only
  rw [hfit]
  rfl

end Decoder

namespace Record

open Decoder

variable {r : Record α} {d : Decoder Unit} {depth : Nat} {m : String × Json}

theorem key_stringChars (s : String) (rest : List Char)
    : key (stringChars s ++ rest) = some (s, rest) := by
  unfold key stringChars
  rw [List.cons_append, skipBlanks_cons rfl, List.append_assoc, List.cons_append, List.nil_append]
  simp only [stringBody_escape, Option.map_some, String.ofList_toList]

theorem colon_cons (rest : List Char) : colon (':' :: rest) = some ((), rest) := by
  rfl

theorem scanMember_memberChars (hknown : r.members.lookup m.1 = some d) (h : d.Reads depth m.2)
    {given : List (String × Json)} (hnew : given.lookup m.1 = none) {rest : List Char}
    (hrest : Stops rest)
    : r.scanMember depth given (memberChars m ++ rest) = .ok (m :: given, rest) := by
  unfold scanMember memberChars Scanner.ofReader
  rw [List.append_assoc, List.cons_append, key_stringChars]
  dsimp only [bind, Except.bind]
  rw [hknown]
  dsimp only
  rw [hnew, colon_cons]
  simp only [Option.isSome_none, Bool.false_eq_true, if_false]
  rw [h.scan rest hrest]
  rfl

theorem readsParts_members {members given : List (String × Json)}
    (hmembers : ∀ m ∈ members, ∃ d, r.members.lookup m.1 = some d ∧ d.Reads depth m.2)
    (hnames : (members.map Prod.fst).Nodup) (hnew : ∀ m ∈ members, given.lookup m.1 = none)
    : ReadsParts (r.scanMember depth) memberChars given members := by
  -- The members read earlier are put before the given ones, so names must differ from both.
  induction members generalizing given with
  | nil => exact .nil given
  | cons m members ih =>
    have ⟨⟨d, hknown, hread⟩, hmembers⟩ := List.forall_mem_cons.1 hmembers
    have ⟨hhead, htail⟩ := List.nodup_cons.1 hnames
    have ⟨hm, hnew⟩ := List.forall_mem_cons.1 hnew
    apply ReadsParts.cons
    . intro rest hrest
      exact scanMember_memberChars hknown hread hm hrest
    . apply ih hmembers htail
      intro n hn
      have hne : n.1 ≠ m.1 := by
        intro heq
        apply hhead
        rw [← heq]
        exact List.mem_map_of_mem hn
      rw [KeyMap.lookup_cons_ite, if_neg hne, hnew n hn]

theorem reads_object {members : List (String × Json)} {name : String} {a : α}
    (hmembers : ∀ m ∈ members, ∃ d, r.members.lookup m.1 = some d ∧ d.Reads depth m.2)
    (hnames : (members.map Prod.fst).Nodup) (hfit : r.ofJson name (.object members) = .ok a)
    : (r.decoder name).Reads (depth + 1) (.object members) := by
  refine ⟨⟨'\x7b', _, rfl, rfl⟩, ?_⟩
  intro rest _
  have hparts : ReadsParts (r.scanMember depth) memberChars [] members :=
    readsParts_members hmembers hnames fun _ _ => rfl
  have hopens (m : String × Json) (_ : m ∈ members)
      : ∃ c left, memberChars m = c :: left ∧ opensValue c = true := ⟨'"', _, rfl, rfl⟩
  have hcontainer := container_separated (.inr rfl) hopens hparts rest
  rw [List.append_nil] at hcontainer
  rw [chars, membersChars_eq, List.cons_append, List.append_assoc]
  simp only [Record.decoder]
  rw [skipBlanks_cons rfl]
  simp only [List.nil_append, List.cons_append]
  rw [hcontainer]
  simp [bind, Except.bind, fitting, hfit]

end Record

end Counterpart.Json
