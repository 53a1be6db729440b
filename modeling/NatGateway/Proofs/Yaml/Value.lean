import NatGateway.Yaml.Value

/-!
# Values and their entries

Induction over the values of a document, and the laws of looking up and inserting entries of a
mapping. Keys are told apart by an equality that ignores the order of entries, but a key that is a
string has no key equal to it but itself.
-/

namespace NatGateway.Yaml

namespace Value

/-! ## Induction and identity -/

/-- What holds of a value if it holds of its parts holds of all values. -/
@[elab_as_elim]
theorem induct {P : Value → Prop}
    (leaf : ∀ value : Value, (∀ items, value ≠ .sequence items) →
      (∀ entries, value ≠ .mapping entries) → (∀ tag inner, value ≠ .tagged tag inner) → P value)
    (sequence : ∀ items, (∀ item ∈ items, P item) → P (.sequence items))
    (mapping : ∀ entries, (∀ entry ∈ entries, P entry.1 ∧ P entry.2) → P (.mapping entries))
    (tagged : ∀ tag inner, P inner → P (.tagged tag inner)) (value : Value) : P value :=
  @Value.rec P (fun items => ∀ item ∈ items, P item)
    (fun entries => ∀ entry ∈ entries, P entry.1 ∧ P entry.2) (fun entry => P entry.1 ∧ P entry.2)
    (leaf .null nofun nofun nofun) (fun b => leaf (.bool b) nofun nofun nofun)
    (fun n => leaf (.number n) nofun nofun nofun) (fun text => leaf (.string text) nofun nofun nofun)
    sequence mapping tagged nofun (fun _ _ hfirst hrest => List.forall_mem_cons.2 ⟨hfirst, hrest⟩)
    nofun (fun _ _ hfirst hrest => List.forall_mem_cons.2 ⟨hfirst, hrest⟩)
    (fun _ _ hkey hvalue => ⟨hkey, hvalue⟩) value

/-- A value is a mapping or it is not. -/
theorem mapping_or_leaf (value : Value) :
    (∃ entries, value = .mapping entries) ∨ ∀ entries, value ≠ .mapping entries := by
  cases value with
  | mapping entries => exact .inl ⟨entries, rfl⟩
  | _ => exact .inr nofun

mutual

/-- Whether two values are the same in all of their parts, the order of entries included. -/
def identical : Value → Value → Bool
  | .null, .null => true
  | .bool a, .bool b => a == b
  | .number a, .number b => a == b
  | .string a, .string b => a == b
  | .sequence a, .sequence b => identicalItems a b
  | .mapping a, .mapping b => identicalEntries a b
  | .tagged s a, .tagged t b => s == t && identical a b
  | _, _ => false

/-- Whether two lists of values are the same. -/
def identicalItems : List Value → List Value → Bool
  | [], [] => true
  | a :: as, b :: bs => identical a b && identicalItems as bs
  | _, _ => false

/-- Whether two lists of entries are the same. -/
def identicalEntries : List (Value × Value) → List (Value × Value) → Bool
  | [], [] => true
  | (k, v) :: as, (l, w) :: bs => identical k l && identical v w && identicalEntries as bs
  | _, _ => false

end

/-- Lists of values are the same if the values in them are. -/
theorem identicalItems_iff {as bs : List Value}
    (h : ∀ a ∈ as, ∀ b, identical a b = true ↔ a = b) : identicalItems as bs = true ↔ as = bs := by
  induction as generalizing bs with
  | nil => cases bs <;> simp [identicalItems]
  | cons a as ih =>
    rw [List.forall_mem_cons] at h
    cases bs with
    | nil => simp [identicalItems]
    | cons b bs => simp [identicalItems, h.1, ih h.2]

/-- Lists of entries are the same if the keys and values in them are. -/
theorem identicalEntries_iff {as bs : List (Value × Value)}
    (h : ∀ a ∈ as, (∀ b, identical a.1 b = true ↔ a.1 = b) ∧ ∀ b, identical a.2 b = true ↔ a.2 = b) :
    identicalEntries as bs = true ↔ as = bs := by
  induction as generalizing bs with
  | nil => cases bs <;> simp [identicalEntries]
  | cons a as ih =>
    rw [List.forall_mem_cons] at h
    cases bs with
    | nil => simp [identicalEntries]
    | cons b bs => simp [identicalEntries, h.1.1, h.1.2, ih h.2, Prod.ext_iff]

/-- Values that are the same in all of their parts are equal. -/
theorem identical_iff (a b : Value) : identical a b = true ↔ a = b := by
  induction a using induct generalizing b with
  | leaf a hsequence hmapping htagged =>
    cases a <;> cases b <;> simp_all [identical]
  | sequence items ih =>
    cases b <;> simp [identical, identicalItems_iff ih]
  | mapping entries ih =>
    cases b <;> simp [identical, identicalEntries_iff ih]
  | tagged tag inner ih =>
    cases b <;> simp [identical, ih]

instance : DecidableEq Value := fun a b => decidable_of_iff _ (identical_iff a b)

/-! ## Equality up to the order of entries -/

/-- Entries are among others if each of them has an entry there with an equal key and value. -/
theorem entriesIn_iff {entries others : List (Value × Value)} :
    entriesIn entries others = true ↔
      ∀ entry ∈ entries, ∃ other ∈ others, same entry.1 other.1 = true ∧
        same entry.2 other.2 = true := by
  induction entries with
  | nil => simp [entriesIn]
  | cons entry rest ih => simp [entriesIn, ih]

/-- Lists of values are equal if the values in them are. -/
theorem sameItems_refl {items : List Value} (h : ∀ item ∈ items, same item item = true) :
    sameItems items items = true := by
  induction items with
  | nil => rfl
  | cons item rest ih =>
    rw [List.forall_mem_cons] at h
    rw [sameItems, h.1, ih h.2]
    rfl

/-- Every value is equal to itself. -/
@[simp] theorem same_refl (value : Value) : same value value = true := by
  induction value using induct with
  | leaf value hsequence hmapping htagged =>
    cases value with
    | null => rfl
    | bool b => simp [same]
    | number n => cases n <;> simp [same, Number.same, Floating.Binary64.same]
    | string text => simp [same]
    | sequence items => exact absurd rfl (hsequence items)
    | mapping entries => exact absurd rfl (hmapping entries)
    | tagged tag inner => exact absurd rfl (htagged tag inner)
  | sequence items ih => exact sameItems_refl ih
  | mapping entries ih =>
    rw [same, beq_self_eq_true, Bool.true_and, entriesIn_iff]
    exact fun entry hentry => ⟨entry, hentry, ih entry hentry⟩
  | tagged tag inner ih => rw [same, beq_self_eq_true, ih, Bool.and_self]

/-- Only a string is equal to a string. -/
@[simp] theorem same_string_iff {key : Value} {name : String} :
    same key (.string name) = true ↔ key = .string name := by
  cases key <;> simp [same]

/-- A string is only equal to a string. -/
@[simp] theorem string_same_iff {key : Value} {name : String} :
    same (.string name) key = true ↔ key = .string name := by
  cases key with
  | string text => simp only [same, beq_iff_eq, string.injEq, @eq_comm _ name]
  | _ => simp [same]

end Value

/-! ## Entries -/

/-- Entries with pairwise different keys: none has the key of an entry before it. -/
def Distinct (entries : List (Value × Value)) : Prop :=
  (entries.map Prod.fst).Pairwise fun key later => key.same later = false

/-- Distinct keys are different. -/
theorem Distinct.nodup {entries : List (Value × Value)} (h : Distinct entries) :
    (entries.map Prod.fst).Nodup := by
  refine List.Pairwise.imp ?_ h
  rintro key later hdifferent rfl
  rw [Value.same_refl] at hdifferent
  cases hdifferent

namespace Value

variable {entries others : List (Value × Value)} {key value : Value} {name : String}

/-- No value is found under a key that no entry has. -/
theorem lookup?_eq_none_iff : lookup? key entries = none ↔
    ∀ entry ∈ entries, entry.1.same key = false := by
  induction entries with
  | nil => simp [lookup?]
  | cons entry rest ih =>
    obtain ⟨k, v⟩ := entry
    cases hk : k.same key <;> simp [lookup?, hk, ih]

/-- What is found under a key is the value of an entry with that key. -/
theorem exists_mem_of_lookup? (h : lookup? key entries = some value) :
    ∃ k, (k, value) ∈ entries ∧ k.same key = true := by
  induction entries with
  | nil => cases h
  | cons entry rest ih =>
    obtain ⟨k, v⟩ := entry
    rw [lookup?] at h
    split at h
    · next hk =>
      cases h
      exact ⟨k, List.mem_cons_self, hk⟩
    · obtain ⟨k', hmem, hk'⟩ := ih h
      exact ⟨k', List.mem_cons_of_mem _ hmem, hk'⟩

/-- What is found under a name is the value of an entry with that name. -/
theorem mem_of_lookup?_string (h : lookup? (.string name) entries = some value) :
    (.string name, value) ∈ entries := by
  obtain ⟨k, hmem, hk⟩ := exists_mem_of_lookup? h
  rwa [same_string_iff.1 hk] at hmem

/-- Nothing is found under a name that is no key of an entry. -/
theorem lookup?_string_eq_none_iff :
    lookup? (.string name) entries = none ↔ Value.string name ∉ entries.map Prod.fst := by
  rw [lookup?_eq_none_iff, List.mem_map]
  constructor
  · rintro h ⟨entry, hentry, hkey⟩
    have hdifferent := h entry hentry
    rw [hkey, same_refl] at hdifferent
    cases hdifferent
  · intro h entry hentry
    rw [Bool.eq_false_iff, Ne, same_string_iff]
    exact fun hkey => h ⟨entry, hentry, hkey⟩

/-- Among distinct entries every value is found under its key. -/
theorem lookup?_of_mem (hdistinct : Distinct entries) (h : (key, value) ∈ entries) :
    lookup? key entries = some value := by
  induction entries with
  | nil => cases h
  | cons entry rest ih =>
    obtain ⟨k, v⟩ := entry
    rw [Distinct, List.map_cons, List.pairwise_cons] at hdistinct
    rw [lookup?]
    rcases List.mem_cons.1 h with heq | hmem
    · cases heq
      rw [if_pos (same_refl key)]
    · rw [if_neg, ih hdistinct.2 hmem]
      rw [hdistinct.1 key (List.mem_map_of_mem hmem)]
      exact Bool.false_ne_true

/-- A key is looked up in entries before it is looked up in those behind them. -/
theorem lookup?_append :
    lookup? key (entries ++ others) = (lookup? key entries).or (lookup? key others) := by
  induction entries with
  | nil => simp [lookup?]
  | cons entry rest ih =>
    obtain ⟨k, v⟩ := entry
    rw [List.cons_append, lookup?, lookup?]
    split
    · rfl
    · exact ih

/-- A name is found in entries with changed values as before. -/
theorem lookup?_map (change : Value → Value → Value) :
    lookup? (.string name) (entries.map fun entry => (entry.1, change entry.1 entry.2)) =
      (lookup? (.string name) entries).map (change (.string name)) := by
  induction entries with
  | nil => rfl
  | cons entry rest ih =>
    obtain ⟨k, v⟩ := entry
    rw [List.map_cons, lookup?, lookup?]
    split
    · next hk => rw [same_string_iff.1 hk, Option.map_some]
    · exact ih

/-- Entries behind others are distinct from them if their keys are not found there. -/
theorem distinct_append_iff : Distinct (entries ++ others) ↔
    Distinct entries ∧ Distinct others ∧ ∀ other ∈ others, lookup? other.1 entries = none := by
  rw [Distinct, List.map_append, List.pairwise_append]
  refine and_congr_right fun _ => and_congr_right fun _ => ?_
  simp only [List.forall_mem_map, lookup?_eq_none_iff]
  exact ⟨fun h other hother entry hentry => h entry hentry other hother,
    fun h entry hentry other hother => h other hother entry hentry⟩

/-! ### Inserting -/

/-- A key that no entry has is put at the end. -/
theorem insert_of_lookup?_eq_none (h : lookup? key entries = none) :
    insert key value entries = entries ++ [(key, value)] := by
  induction entries with
  | nil => rfl
  | cons entry rest ih =>
    obtain ⟨k, v⟩ := entry
    rw [lookup?] at h
    split at h
    · cases h
    · next hk => rw [insert, if_neg hk, ih h, List.cons_append]

/-- A key that an entry has keeps its place. -/
theorem keys_insert_of_isSome (h : (lookup? key entries).isSome = true) :
    (insert key value entries).map Prod.fst = entries.map Prod.fst := by
  induction entries with
  | nil => cases h
  | cons entry rest ih =>
    obtain ⟨k, v⟩ := entry
    rw [lookup?] at h
    rw [insert]
    split at h
    · next hk => rw [if_pos hk, List.map_cons, List.map_cons]
    · next hk => rw [if_neg hk, List.map_cons, List.map_cons, ih h]

/-- Entries stay distinct when a value is put under a key. -/
theorem distinct_insert (h : Distinct entries) : Distinct (insert key value entries) := by
  cases hlookup : lookup? key entries with
  | none =>
    rw [insert_of_lookup?_eq_none hlookup, distinct_append_iff]
    exact ⟨h, List.pairwise_singleton _ _, List.forall_mem_singleton.2 hlookup⟩
  | some known =>
    rw [Distinct, keys_insert_of_isSome (by rw [hlookup]; rfl)]
    exact h

/-- The value put under a key is found there. -/
theorem lookup?_insert_self : lookup? key (insert key value entries) = some value := by
  induction entries with
  | nil => rw [insert, lookup?, if_pos (same_refl key)]
  | cons entry rest ih =>
    obtain ⟨k, v⟩ := entry
    rw [insert]
    split
    · next hk => rw [lookup?, if_pos hk]
    · next hk => rw [lookup?, if_neg hk, ih]

/-- A value put under a name is not found under other keys. -/
theorem lookup?_insert_of_ne (h : key ≠ .string name) :
    lookup? key (insert (.string name) value entries) = lookup? key entries := by
  induction entries with
  | nil => exact if_neg (mt string_same_iff.1 h)
  | cons entry rest ih =>
    obtain ⟨k, v⟩ := entry
    rw [insert]
    split
    · next hk =>
      have hother : ¬ (k.same key = true) := by
        rw [same_string_iff.1 hk, string_same_iff]
        exact h
      rw [lookup?, lookup?, if_neg hother, if_neg hother]
    · rw [lookup?, lookup?, ih]

/-- A value put under another key is not found under a name. -/
theorem lookup?_string_insert_of_ne (h : key ≠ .string name) :
    lookup? (.string name) (insert key value entries) = lookup? (.string name) entries := by
  induction entries with
  | nil => exact if_neg (mt same_string_iff.1 h)
  | cons entry rest ih =>
    obtain ⟨k, v⟩ := entry
    rw [insert]
    split
    · next hk =>
      have hother : ¬ k.same (.string name) = true := by
        intro hsame
        rw [same_string_iff.1 hsame, string_same_iff] at hk
        exact h hk
      rw [lookup?, lookup?, if_neg hother, if_neg hother]
    · rw [lookup?, lookup?, ih]

/-- A key that an entry has is found there even if more entries stand behind. -/
theorem insert_append (h : (lookup? key entries).isSome = true) :
    insert key value (entries ++ others) = insert key value entries ++ others := by
  induction entries with
  | nil => cases h
  | cons entry rest ih =>
    obtain ⟨k, v⟩ := entry
    rw [lookup?] at h
    rw [List.cons_append, insert, insert]
    split at h
    · next hk => rw [if_pos hk, if_pos hk, List.cons_append]
    · next hk => rw [if_neg hk, if_neg hk, ih h, List.cons_append]

/-- Putting the value of a key under that key changes nothing. -/
theorem insert_lookup? (h : lookup? key entries = some value) :
    insert key value entries = entries := by
  induction entries with
  | nil => cases h
  | cons entry rest ih =>
    obtain ⟨k, v⟩ := entry
    rw [lookup?] at h
    rw [insert]
    split at h
    · next hk =>
      cases h
      rw [if_pos hk]
    · next hk => rw [if_neg hk, ih h]

/-- What is put under a key takes the place of what has been put there before. -/
theorem insert_insert {first second : Value} :
    insert key second (insert key first entries) = insert key second entries := by
  induction entries with
  | nil => rw [insert, insert, insert, if_pos (same_refl key)]
  | cons entry rest ih =>
    obtain ⟨k, v⟩ := entry
    rw [insert, insert]
    split
    · next hk => rw [insert, if_pos hk]
    · next hk => rw [insert, if_neg hk, ih]

/-- A change of every entry behind an insertion is a change of every entry before it, if it comes to
the same for the entry with the name and for all others. -/
theorem map_insert {α : Type} {after before : Value × Value → α} {old : Value}
    (hdistinct : Distinct entries) (h : lookup? (.string name) entries = some old)
    (hself : after (.string name, value) = before (.string name, old))
    (hother : ∀ entry ∈ entries, entry.1 ≠ .string name → after entry = before entry) :
    (insert (.string name) value entries).map after = entries.map before := by
  induction entries with
  | nil => cases h
  | cons entry rest ih =>
    obtain ⟨k, v⟩ := entry
    rw [Distinct, List.map_cons, List.pairwise_cons] at hdistinct
    rw [List.forall_mem_cons] at hother
    rw [lookup?] at h
    rw [insert]
    split at h
    · next hk =>
      cases h
      rw [same_string_iff.1 hk] at hdistinct
      rw [if_pos hk, same_string_iff.1 hk, List.map_cons, List.map_cons, hself]
      congr 1
      refine List.map_congr_left fun entry hentry => hother.2 entry hentry fun heq => ?_
      have hlater := hdistinct.1 entry.1 (List.mem_map_of_mem hentry)
      rw [heq, same_refl] at hlater
      cases hlater
    · next hk =>
      have hne : k ≠ .string name := fun heq => hk (same_string_iff.2 heq)
      rw [if_neg hk, List.map_cons, List.map_cons, hother.1 hne, ih hdistinct.2 h hother.2]

/-- An entry behind an insertion was there before, or has the new value under the new key or under
one that was there before. -/
theorem mem_insert {entry : Value × Value} (h : entry ∈ insert key value entries) :
    entry ∈ entries ∨ entry.2 = value ∧ (entry.1 = key ∨ entry.1 ∈ entries.map Prod.fst) := by
  induction entries with
  | nil =>
    rw [insert, List.mem_singleton] at h
    subst h
    exact Or.inr ⟨rfl, Or.inl rfl⟩
  | cons first rest ih =>
    obtain ⟨k, v⟩ := first
    rw [insert] at h
    split at h
    · rcases List.mem_cons.1 h with rfl | hmem
      · exact Or.inr ⟨rfl, Or.inr List.mem_cons_self⟩
      · exact Or.inl (List.mem_cons_of_mem _ hmem)
    · rcases List.mem_cons.1 h with rfl | hmem
      · exact Or.inl List.mem_cons_self
      · rcases ih hmem with hold | ⟨hvalue, hkey⟩
        · exact Or.inl (List.mem_cons_of_mem _ hold)
        · exact Or.inr ⟨hvalue, hkey.imp id (List.mem_cons_of_mem _)⟩

end Value

/-! ## Texts of numbers -/

namespace Number

/-- A decimal has a text. -/
theorem decimalText_ne_nil (decimal : Floating.Decimal) : decimalText decimal ≠ [] := by
  rw [decimalText]
  split
  · simp
  · split
    · simp
    · split <;> simp

/-- Every number has a text. -/
theorem text_ne_empty (number : Number) : number.text ≠ "" := by
  cases number with
  | integer value =>
    have hdigits : String.ofList (Nat.toDigits 10 value.natAbs) ≠ "" := by
      simp [Nat.toDigits_ne_nil]
    rw [text, Text.decimal]
    split
    · simp
    · exact hdigits
  | float value =>
    rw [text]
    cases value with
    | nan => decide
    | infinite negative => cases negative <;> decide
    | finite negative mantissa exponent => simp [floatText, decimalText_ne_nil]

end Number

end NatGateway.Yaml
