import NatGateway.Proofs.First
import NatGateway.Soap.HashedMap
import NatGateway.Soap.Schema

/-!
# Views of an answer

The arguments of an answer as values of one type, in each way in which they can be looked at: one by
its name, as a field of a record, in the list of all of them, or in a map. A name that is told more than
once is where they part. A look by name and a record go to the first argument of the name, and a map
keeps the last one. So the views agree about a name exactly if its first and its last argument have the
same value, and always about a name that is told once or not at all.
-/

namespace NatGateway.Soap

namespace Answer

variable {α : Type} {pairs : List (String × α)} {name : String} {value : α}

/-! ## The last value of a name -/

/-- A value is found under the key of the first pair, or behind it. -/
theorem lookup_cons_eq (key : String) (value : α) (rest : List (String × α)) :
    ((key, value) :: rest).lookup name = if name = key then some value else rest.lookup name := by
  rw [List.lookup_cons]
  by_cases hname : name = key
  · rw [beq_iff_eq.mpr hname, if_pos hname]
  · rw [beq_eq_false_iff_ne.mpr hname, if_neg hname]

/-- What is filled pair by pair holds the last value of each key, or what it held before. -/
theorem found_foldl {μ : Type} (put : μ → String × α → μ) (found : μ → Option α)
    (hput : ∀ map pair, found (put map pair) = if name = pair.1 then some pair.2 else found map)
    (pairs : List (String × α)) (map : μ) :
    found (pairs.foldl put map) = (pairs.reverse.lookup name).or (found map) := by
  -- The first pair is in the map before the others are put in, so the map is general in the induction.
  induction pairs generalizing map with
  | nil => rfl
  | cons pair rest ih =>
    obtain ⟨key, value⟩ := pair
    rw [List.foldl_cons, ih, hput, List.reverse_cons, List.lookup_append, Option.or_assoc,
      lookup_cons_eq, List.lookup_nil]
    split
    · rfl
    · rfl

/-- What is put under a key is found there, and nothing else is found that was not before. -/
theorem lookup_insertSorted (map : List (String × α)) (key : String) (value : α) :
    (insertSorted key value map).lookup name = if name = key then some value else map.lookup name := by
  induction map with
  | nil => rw [insertSorted, lookup_cons_eq]
  | cons entry rest ih =>
    obtain ⟨other, present⟩ := entry
    rw [insertSorted]
    split
    · rw [lookup_cons_eq]
    · split
      · next heq =>
        subst heq
        rw [lookup_cons_eq, lookup_cons_eq]
        split
        · rfl
        · rfl
      · next hne =>
        rw [lookup_cons_eq, lookup_cons_eq, ih]
        by_cases hname : name = key
        · rw [if_neg (hname ▸ hne), if_pos hname, if_pos hname]
        · rw [if_neg hname, if_neg hname]

/-- Whatever stands in a sorted map stood there before, or was put in. -/
theorem mem_insertSorted {map : List (String × α)} {key : String} {entry : String × α}
    (h : entry ∈ insertSorted key value map) : entry.1 = key ∨ entry ∈ map := by
  induction map with
  | nil => exact Or.inl (congrArg Prod.fst (List.mem_singleton.mp h))
  | cons first rest ih =>
    obtain ⟨other, present⟩ := first
    rw [insertSorted] at h
    split at h
    · rcases List.mem_cons.mp h with rfl | hmem
      · exact Or.inl rfl
      · exact Or.inr hmem
    · split at h
      · rcases List.mem_cons.mp h with rfl | hmem
        · exact Or.inl rfl
        · exact Or.inr (List.mem_cons_of_mem _ hmem)
      · rcases List.mem_cons.mp h with rfl | hmem
        · exact Or.inr List.mem_cons_self
        · exact (ih hmem).imp_right (List.mem_cons_of_mem _)

/-- A value that is put into a sorted map leaves it sorted. -/
theorem pairwise_insertSorted {map : List (String × α)} (h : map.Pairwise fun a b => a.1 < b.1)
    (key : String) (value : α) : (insertSorted key value map).Pairwise fun a b => a.1 < b.1 := by
  induction map with
  | nil => simp [insertSorted]
  | cons entry rest ih =>
    obtain ⟨other, present⟩ := entry
    obtain ⟨hfirst, hrest⟩ := List.pairwise_cons.mp h
    rw [insertSorted]
    split
    · next hlt =>
      refine List.pairwise_cons.mpr ⟨fun entry hentry => ?_, h⟩
      rcases List.mem_cons.mp hentry with rfl | hentry
      · exact hlt
      · exact String.lt_trans hlt (hfirst entry hentry)
    · next hnot =>
      split
      · next heq =>
        subst heq
        exact List.pairwise_cons.mpr ⟨hfirst, hrest⟩
      · next hne =>
        refine List.pairwise_cons.mpr ⟨fun entry hentry => ?_, ih hrest⟩
        rcases mem_insertSorted hentry with hkey | hentry
        · rw [hkey]
          exact Std.lt_of_le_of_ne (String.not_lt.mp hnot) (Ne.symm hne)
        · exact hfirst entry hentry

/-- The keys of a sorted map ascend, so no key comes twice. -/
theorem pairwise_sortedMap (pairs : List (String × α)) :
    (sortedMap pairs).Pairwise fun a b => a.1 < b.1 := by
  have hfrom : ∀ map : List (String × α), (map.Pairwise fun a b => a.1 < b.1) →
      (pairs.foldl (fun map pair => insertSorted pair.1 pair.2 map) map).Pairwise
        fun a b => a.1 < b.1 := by
    induction pairs with
    | nil => exact fun map h => h
    | cons pair rest ih => exact fun map h => ih _ (pairwise_insertSorted h pair.1 pair.2)
  exact hfrom [] List.Pairwise.nil

/-- Where the keys ascend a value is found under each of them. -/
theorem mem_iff_lookup_of_pairwise {map : List (String × α)}
    (h : map.Pairwise fun a b => a.1 < b.1) :
    (name, value) ∈ map ↔ map.lookup name = some value := by
  induction map with
  | nil => simp
  | cons entry rest ih =>
    obtain ⟨key, present⟩ := entry
    obtain ⟨hfirst, hrest⟩ := List.pairwise_cons.mp h
    rw [List.mem_cons, ih hrest, lookup_cons_eq, Prod.mk.injEq]
    by_cases hname : name = key
    · subst hname
      have habsent : rest.lookup name = none :=
        lookup_eq_none_iff_forall_ne.mpr fun entry hentry heq =>
          String.lt_irrefl name (heq ▸ hfirst entry hentry)
      simp [habsent, eq_comm]
    · simp [hname]

/-- A sorted map holds the last value of each key, and nothing else. -/
theorem mem_sortedMap_iff :
    (name, value) ∈ sortedMap pairs ↔ pairs.reverse.lookup name = some value := by
  have hfound := found_foldl (fun map pair => insertSorted pair.1 pair.2 map)
    (fun map : List (String × α) => map.lookup name)
    (fun map pair => lookup_insertSorted map pair.1 pair.2) pairs []
  rw [mem_iff_lookup_of_pairwise (pairwise_sortedMap pairs), sortedMap, hfound, List.lookup_nil,
    Option.or_none]

/-- A map without an order holds the last value of each key. -/
theorem getElem?_hashedMap : (hashedMap pairs)[name]? = pairs.reverse.lookup name := by
  have hput : ∀ (map : Std.HashMap String α) (pair : String × α),
      (map.insert pair.1 pair.2)[name]? = if name = pair.1 then some pair.2 else map[name]? := by
    intro map pair
    rw [Std.HashMap.getElem?_insert]
    by_cases hname : name = pair.1
    · rw [if_pos (beq_iff_eq.mpr hname.symm), if_pos hname]
    · rw [if_neg (fun h => hname (beq_iff_eq.mp h).symm), if_neg hname]
  have hfound := found_foldl (fun map pair => map.insert pair.1 pair.2)
    (fun map : Std.HashMap String α => map[name]?) hput pairs ∅
  rw [hashedMap, hfound, Std.HashMap.getElem?_empty, Option.or_none]

/-- A name has a last value exactly if it has a first one. -/
theorem lookup_reverse_eq_none_iff :
    pairs.reverse.lookup name = none ↔ pairs.lookup name = none := by
  rw [lookup_eq_none_iff_forall_ne, lookup_eq_none_iff_forall_ne]
  simp only [List.mem_reverse]

/-- The first value of a name is its last one if the name does not come twice. -/
theorem lookup_reverse_of_count_le_one (h : (pairs.map (·.1)).count name ≤ 1) :
    pairs.reverse.lookup name = pairs.lookup name := by
  cases hfirst : pairs.lookup name with
  | none => exact lookup_reverse_eq_none_iff.mpr hfirst
  | some value =>
    obtain ⟨before, after, rfl, -⟩ := lookup_eq_some_iff_isFirst.mp hfirst
    have hafter : name ∉ after.map (·.1) := by
      intro hmem
      have hcount := List.count_pos_iff.mpr hmem
      simp only [List.map_append, List.map_cons, List.count_append, List.count_cons_self] at h
      omega
    refine lookup_eq_some_iff_isFirst.mpr ⟨after.reverse, before.reverse, by simp, ?_⟩
    intro entry hentry heq
    exact hafter (List.mem_map.mpr ⟨entry, List.mem_reverse.mp hentry, heq⟩)

/-! ## Views -/

variable {answer : Answer} {type : ValueType} {values : List (String × Value)}

/-- The values of an answer come one for one from its entries, under the same names. -/
theorem values_eq_ok_iff :
    answer.values type = .ok values ↔
      List.Forall₂ (fun entry value => readEntry type entry.1 entry.2 = .ok value.2 ∧
        entry.1 = value.1) answer.entries values := by
  have hentry : ∀ (entry : String × String) (value : String × Value),
      (readEntry type entry.1 entry.2).map (entry.1, ·) = .ok value ↔
        readEntry type entry.1 entry.2 = .ok value.2 ∧ entry.1 = value.1 := by
    rintro ⟨name, text⟩ ⟨key, value⟩
    simp [map_eq_ok_iff, Prod.mk.injEq]
  rw [Answer.values, mapM_eq_ok_iff]
  simp only [hentry]

/-- The values of an answer can be told if each of its texts can be read. -/
theorem exists_values_iff :
    (∃ values, answer.values type = .ok values) ↔
      ∀ entry ∈ answer.entries, ∃ value, type.read entry.2 = .ok value := by
  have hentry : ∀ entry : String × String,
      (∃ value, (readEntry type entry.1 entry.2).map (entry.1, ·) = .ok value) ↔
        ∃ value, type.read entry.2 = .ok value := by
    rintro ⟨name, text⟩
    rw [exists_map_eq_ok_iff, readEntry]
    cases type.read text with
    | ok value => simp
    | error error => simp
  rw [Answer.values, exists_mapM_eq_ok_iff]
  simp only [hentry]

/-- The names of the values are those of the entries. -/
theorem map_fst_values (h : answer.values type = .ok values) :
    values.map (·.1) = answer.entries.map (·.1) := by
  obtain ⟨hlength, hpairs⟩ := List.forall₂_iff_get.mp (values_eq_ok_iff.mp h)
  refine List.ext_getElem (by simp [hlength]) fun i hvalue hentry => ?_
  rw [List.length_map] at hvalue hentry
  rw [List.getElem_map, List.getElem_map]
  exact (hpairs i hentry hvalue).2.symm

/-- A look at an answer by a name finds the first value of the name. -/
theorem value?_of_values (h : answer.values type = .ok values) :
    answer.value? type name = .ok (values.lookup name) := by
  obtain ⟨action, uri, entries⟩ := answer
  have hpairs := values_eq_ok_iff.mp h
  dsimp only at hpairs
  rw [value?, get?]
  dsimp only
  clear h
  induction hpairs with
  | nil => rfl
  | @cons entry pair entries values hentry _ ih =>
    obtain ⟨key, text⟩ := entry
    obtain ⟨other, value⟩ := pair
    obtain ⟨hread, rfl⟩ := hentry
    dsimp only at hread
    rw [lookup_cons_eq, lookup_cons_eq]
    by_cases hname : name = key
    · rw [if_pos hname, if_pos hname, hname]
      dsimp only
      rw [hread]
      rfl
    · rw [if_neg hname, if_neg hname]
      exact ih

/-- A field of the type has the first value of its name in every record, or the zero value. -/
theorem eq_getD_of_read {schema : Schema} {record : Record} (h : answer.values type = .ok values)
    (hread : schema.read answer = .ok record) {entry : Field × Value}
    (hentry : entry ∈ schema.fields.zip record) (htype : entry.1.type = type) :
    entry.2 = (values.lookup entry.1.element).getD type.zero := by
  obtain ⟨-, hfields⟩ := List.forall₂_iff_zip.mp (mapM_eq_ok_iff.mp hread)
  have hfield := hfields hentry
  rw [htype, value?_of_values h] at hfield
  exact (Except.ok.inj hfield).symm

/-- A record whose fields all have the type can be read. -/
theorem exists_read_of_values {schema : Schema} (h : answer.values type = .ok values)
    (htypes : ∀ field ∈ schema.fields, field.type = type) :
    ∃ record, schema.read answer = .ok record := by
  refine exists_mapM_eq_ok_iff.mpr fun field hfield => ?_
  rw [htypes field hfield, value?_of_values h]
  exact ⟨_, rfl⟩

/-- What is found under a name by a look at an answer, in the fields of every record that is read of it,
and in the list of its values. -/
structure Finds (answer : Answer) (type : ValueType) (values : List (String × Value)) (name : String)
    (found : Option Value) : Prop where
  named : answer.value? type name = .ok found
  recorded : ∀ (schema : Schema) (record : Record), schema.read answer = .ok record →
    ∀ entry ∈ schema.fields.zip record, entry.1.type = type → entry.1.element = name →
      entry.2 = found.getD type.zero
  listed : values.lookup name = found

/-- What the two maps of some values hold under a name. -/
structure Holds (values : List (String × Value)) (name : String) (held : Option Value) : Prop where
  sorted : ∀ value, (name, value) ∈ sortedMap values ↔ held = some value
  hashed : (hashedMap values)[name]? = held

/-- The first value of a name is found. -/
theorem finds_lookup (h : answer.values type = .ok values) (name : String) :
    Finds answer type values name (values.lookup name) where
  named := value?_of_values h
  recorded := by
    rintro schema record hread entry hentry htype rfl
    exact eq_getD_of_read h hread hentry htype
  listed := rfl

/-- The last value of a name is held. -/
theorem holds_lookup_reverse (values : List (String × Value)) (name : String) :
    Holds values name (values.reverse.lookup name) where
  sorted _ := mem_sortedMap_iff
  hashed := getElem?_hashedMap

/-- One value is found and held exactly if the first and the last one of the name are the same. -/
theorem exists_finds_holds_iff (h : answer.values type = .ok values) (name : String) :
    (∃ found, Finds answer type values name found ∧ Holds values name found) ↔
      values.lookup name = values.reverse.lookup name := by
  constructor
  · rintro ⟨found, hfinds, hholds⟩
    rw [hfinds.listed, ← hholds.hashed, getElem?_hashedMap]
  · intro heq
    exact ⟨_, finds_lookup h name, heq ▸ holds_lookup_reverse values name⟩

/-- If all texts of an answer can be read as values of a type, then its values can be told, and every
record whose fields are of this type can be read. Under a name the first of the values is found, by
itself, in records and in the list, and the maps hold the last one. Names without a first value are
those without a last one. So all views agree on a name exactly if its first and its last value are the
same, as they are if the name comes at most once. -/
theorem views_agree_iff (answer : Answer) (type : ValueType)
    (h : ∀ entry ∈ answer.entries, ∃ value, type.read entry.2 = .ok value) :
    ∃ values, answer.values type = .ok values ∧
      (∀ schema : Schema, (∀ field ∈ schema.fields, field.type = type) →
        ∃ record, schema.read answer = .ok record) ∧
      ∀ name, Finds answer type values name (values.lookup name) ∧
        Holds values name (values.reverse.lookup name) ∧
        (values.reverse.lookup name = none ↔ values.lookup name = none) ∧
        ((∃ found, Finds answer type values name found ∧ Holds values name found) ↔
          values.lookup name = values.reverse.lookup name) ∧
        ((answer.entries.map (·.1)).count name ≤ 1 →
          ∃ found, Finds answer type values name found ∧ Holds values name found) := by
  obtain ⟨values, hvalues⟩ := exists_values_iff.mpr h
  refine ⟨values, hvalues, fun schema => exists_read_of_values hvalues, fun name => ?_⟩
  refine ⟨finds_lookup hvalues name, holds_lookup_reverse values name, lookup_reverse_eq_none_iff,
    exists_finds_holds_iff hvalues name, fun hcount => ?_⟩
  rw [← map_fst_values hvalues] at hcount
  exact (exists_finds_holds_iff hvalues name).mpr (lookup_reverse_of_count_le_one hcount).symm

/-- An answer with one argument that comes twice. -/
def twice (first last : String) : Answer := ⟨"Act", none, [("A", first), ("A", last)]⟩

/-- An argument that is told as seven both times is agreed on, and so is one that is not told. -/
theorem views_agree_seven :
    ∃ values, (twice "7" " 07 ").values (.integer .u8) = .ok values ∧
      ∀ name ∈ ["A", "B"], ∃ found,
        Finds (twice "7" " 07 ") (.integer .u8) values name found ∧ Holds values name found := by
  have htold : (twice "7" " 07 ").values (.integer .u8) =
      .ok [("A", .integer 7), ("A", .integer 7)] := by decide
  have hsame : ∀ name ∈ ["A", "B"],
      [("A", Value.integer 7), ("A", .integer 7)].lookup name =
        [("A", Value.integer 7), ("A", .integer 7)].reverse.lookup name := by decide
  obtain ⟨values, hvalues, -, hviews⟩ :=
    views_agree_iff (twice "7" " 07 ") (.integer .u8) (exists_values_iff.mp ⟨_, htold⟩)
  cases Except.ok.inj (hvalues.symm.trans htold)
  refine ⟨_, hvalues, fun name hname => ?_⟩
  obtain ⟨-, -, -, hagree, -⟩ := hviews name
  exact hagree.mpr (hsame name hname)

/-- The views part where an argument comes twice with two values: the first one is found, and the maps
hold the last one. -/
theorem not_views_agree_bits :
    (∀ entry ∈ (twice "0" "1").entries, ∃ value, (ValueType.integer .u8).read entry.2 = .ok value) ∧
      ¬ ∃ values found, (twice "0" "1").values (.integer .u8) = .ok values ∧
        Finds (twice "0" "1") (.integer .u8) values "A" found ∧ Holds values "A" found := by
  have htold : (twice "0" "1").values (.integer .u8) =
      .ok [("A", .integer 0), ("A", .integer 1)] := by decide
  refine ⟨exists_values_iff.mp ⟨_, htold⟩, ?_⟩
  rintro ⟨values, found, hvalues, hboth⟩
  cases Except.ok.inj (hvalues.symm.trans htold)
  have hsame := (exists_finds_holds_iff hvalues "A").mp ⟨found, hboth⟩
  revert hsame
  decide

end Answer

end NatGateway.Soap
