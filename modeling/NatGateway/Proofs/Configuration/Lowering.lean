import NatGateway.Proofs.Configuration.Reachable

/-!
# What is lost when keys are lowered

Entries of a mapping whose keys are the same in lower case become one entry, and of these the last one
counts. What stands in the others is lost with everything below it: sections that are spelled in two
ways are not united. So a scalar is found at its path in lower case if no entry on the way to it is
followed by another one with the same name; and where no other scalar could take its place, only
then.
-/

namespace NatGateway.Configuration

open NatGateway.Text (utf8Bytes)
open NatGateway.Yaml (Value Distinct HasDistinctKeys)
open NatGateway.Yaml.Value

variable {entries : List (Value × Value)} {document value inner key : Value} {name text : String}
  {keys path : List String}

/-! ## Followed paths -/

/-- What stands in a document behind names, where the last entry with each name is followed. -/
def lastAt? : Value → List String → Option Value
  | document, [] => some document
  | .mapping entries, name :: rest => (latest? name entries).bind fun next => lastAt? next rest
  | _, _ :: _ => none

/-- In a document with lowered keys that is found which the last entries lead to. -/
theorem find_lowerKeys_eq_ok_iff : find (lowerKeys document) path = .ok value ↔
    ∃ inner, lastAt? document path = some inner ∧ lowerKeys inner = value := by
  induction path generalizing document with
  | nil => simp [lastAt?]
  | cons name rest ih =>
    rw [find_cons_eq_ok_iff]
    cases document with
    | mapping entries =>
      rw [lowerKeys, entriesOf, lookup?_lowerEntries, lastAt?]
      cases latest? name entries with
      | none => simp [lookup?]
      | some next => simp [ih]
    | _ => simp [lowerKeys, entriesOf, lookup?, lastAt?]

/-- What the last entries lead to is stored behind keys that are the same in lower case. -/
theorem exists_stores_of_lastAt? (h : lastAt? document path = some value) :
    ∃ keys, lowered keys = lowered path ∧ Stores document keys value := by
  induction path generalizing document with
  | nil =>
    cases h
    exact ⟨[], rfl, .here _⟩
  | cons name rest ih =>
    cases document with
    | mapping entries =>
      obtain ⟨next, hnext, hrest⟩ := Option.bind_eq_some_iff.1 h
      obtain ⟨text, hmem, htext⟩ := mem_of_latest? hnext
      obtain ⟨keys, hkeys, hstored⟩ := ih hrest
      refine ⟨text :: keys, ?_, .inside hmem hstored⟩
      rw [lowered, List.map_cons, htext, ← lowered, hkeys]
      rfl
    | _ => cases h

/-! ## Replaced entries -/

/-- Whether an entry with a key is followed by another one with the same key in lower case. -/
def IsFollowed (entries : List (Value × Value)) (key : String) : Prop :=
  ∃ front inner back, entries = front ++ (.string key, inner) :: back ∧
    ∃ later ∈ back, lowerKey later.1 = keyOf key

/-- Whether on the way along keys some entry is followed by another one with the same key in lower
case. -/
def IsReplaced (document : Value) (keys : List String) : Prop :=
  ∃ front key back entries, keys = front ++ key :: back ∧ Stores document front (.mapping entries) ∧
    IsFollowed entries key

/-- Where there are no entries none is followed. -/
theorem not_isFollowed_nil : ¬ IsFollowed [] text := by
  rintro ⟨front, inner, back, hentries, _⟩
  exact List.append_ne_nil_of_right_ne_nil front (List.cons_ne_nil _ back) hentries.symm

/-- An entry is followed by another one if the first entry is the one with its key and the other one
is behind it, or if both are behind the first entry. -/
theorem isFollowed_cons_iff : IsFollowed ((key, value) :: entries) text ↔
    (key = .string text ∧ ∃ later ∈ entries, lowerKey later.1 = keyOf text) ∨
      IsFollowed entries text := by
  constructor
  · rintro ⟨front, inner, back, hentries, later, hlater, hsame⟩
    rcases List.cons_eq_append_iff.1 hentries with ⟨rfl, hback⟩ | ⟨front', rfl, hrest⟩
    · cases hback
      exact .inl ⟨rfl, later, hlater, hsame⟩
    · exact .inr ⟨front', inner, back, hrest, later, hlater, hsame⟩
  · rintro (⟨rfl, later, hlater, hsame⟩ | ⟨front, inner, back, rfl, hback⟩)
    · exact ⟨[], value, entries, rfl, later, hlater, hsame⟩
    · exact ⟨(key, value) :: front, inner, back, rfl, hback⟩

/-- There is nothing to be replaced on the way along no keys. -/
theorem not_isReplaced_nil : ¬ IsReplaced document [] := by
  rintro ⟨front, key, back, _, hkeys, _⟩
  exact List.append_ne_nil_of_right_ne_nil front (List.cons_ne_nil key back) hkeys.symm

/-- On the way into a mapping an entry is replaced if the one with the first key is followed by
another one, or if one is replaced inside of an entry with that key. -/
theorem isReplaced_mapping_iff : IsReplaced (.mapping entries) (text :: keys) ↔
    IsFollowed entries text ∨ ∃ inner, (.string text, inner) ∈ entries ∧ IsReplaced inner keys := by
  constructor
  · rintro ⟨front, step, back, within, hkeys, hfront, hfollowed⟩
    rcases List.cons_eq_append_iff.1 hkeys with ⟨rfl, hback⟩ | ⟨front', rfl, hrest⟩
    · cases hback
      cases hfront
      exact .inl hfollowed
    · obtain ⟨inner, hmem, hinner⟩ := stores_mapping_iff.1 hfront
      exact .inr ⟨inner, hmem, front', step, back, within, hrest, hinner, hfollowed⟩
  · rintro (hfollowed | ⟨inner, hmem, front, step, back, within, rfl, hfront, hfollowed⟩)
    · exact ⟨[], text, keys, entries, rfl, .here _, hfollowed⟩
    · exact ⟨text :: front, step, back, within, rfl, .inside hmem hfront, hfollowed⟩

/-- An entry that is not followed by another one with its name is the last one with it. -/
theorem latest?_of_not_isFollowed (hmem : (.string text, value) ∈ entries)
    (h : ¬ IsFollowed entries text) : latest? text entries = some value := by
  obtain ⟨front, back, rfl⟩ := List.append_of_mem hmem
  have hback : latest? text back = none := by
    refine latest?_eq_none_iff.2 fun later hlater hkey => h ?_
    exact ⟨front, value, back, rfl, later, hlater, hkey⟩
  rw [latest?_append, latest?, hback, lowerKey, if_pos (same_refl _)]
  rfl

/-- Among distinct keys the last entry behind one that is followed has another key. -/
theorem exists_other_of_isFollowed (hdistinct : Distinct entries) (h : IsFollowed entries text) :
    ∃ other value, other ≠ text ∧ (.string other, value) ∈ entries ∧
      Text.lower other = Text.lower text ∧ latest? text entries = some value := by
  obtain ⟨front, inner, back, rfl, later, hlater, hkey⟩ := h
  obtain ⟨value, hvalue⟩ : ∃ value, latest? text back = some value := by
    refine Option.ne_none_iff_exists'.1 fun hnone => ?_
    exact latest?_eq_none_iff.1 hnone later hlater hkey
  obtain ⟨other, hmem, hother⟩ := mem_of_latest? hvalue
  have hne : other ≠ text := by
    rintro rfl
    have hbehind := (distinct_append_iff.1 hdistinct).2.1
    have hfresh := (List.pairwise_cons.1 hbehind).1 _ (List.mem_map_of_mem hmem)
    rw [same_refl] at hfresh
    cases hfresh
  refine ⟨other, value, hne, List.mem_append_right front (List.mem_cons_of_mem _ hmem), hother, ?_⟩
  rw [latest?_append, latest?, hvalue]
  rfl

/-! ## Scalars -/

/-- Whether a value is a scalar. -/
def IsScalar : Value → Prop
  | .null | .bool _ | .number _ | .string _ => True
  | _ => False

/-- Lowering keys leaves a scalar as it is, and nothing else becomes one. -/
theorem lowerKeys_eq_iff_of_isScalar (h : IsScalar value) : lowerKeys inner = value ↔ inner = value := by
  cases inner with
  | mapping entries => cases value <;> simp [lowerKeys, IsScalar] at h ⊢
  | sequence items => cases value <;> simp [lowerKeys, IsScalar] at h ⊢
  | _ => rfl

/-- A scalar is found in a document with lowered keys if the last entries lead to it. -/
theorem find_lowerKeys_eq_ok_iff_of_isScalar (h : IsScalar value) :
    find (lowerKeys document) (lowered keys) = .ok value ↔ lastAt? document keys = some value := by
  have hlowered : lowered (lowered keys) = lowered keys := by simp [lowered]
  rw [find_congr hlowered, find_lowerKeys_eq_ok_iff]
  simp only [lowerKeys_eq_iff_of_isScalar h, exists_eq_right]

/-- Whether no other scalar of a document is stored behind keys that start with these in lower case, or
that these start with. -/
def IsAlone (document : Value) (keys : List String) : Prop :=
  ∀ other given, Stores document other given → IsScalar given → other ≠ keys → Apart other keys

/-- A scalar that is alone is the only one behind keys that are the same in lower case. -/
theorem IsAlone.eq_of_lowered_eq (h : IsAlone document keys) {other : List String}
    (hstored : Stores document other value) (hscalar : IsScalar value)
    (hlowered : lowered other = lowered keys) : other = keys := by
  refine of_not_not fun hne => ?_
  exact (h other value hstored hscalar hne).1 (hlowered ▸ List.prefix_refl _)

/-- What is alone in a mapping is alone in its own entry. -/
theorem IsAlone.inside (h : IsAlone (.mapping entries) (text :: keys))
    (hmem : (.string text, inner) ∈ entries) : IsAlone inner keys := by
  intro other given hstored hscalar hne
  have hcons := h (text :: other) given (.inside hmem hstored) hscalar fun heq =>
    hne (List.cons.inj heq).2
  exact (apart_cons_iff.1 hcons).resolve_left (not_not_intro rfl)

/-- The last entries lead to what is stored behind keys if no entry on the way is replaced. -/
theorem lastAt?_of_not_isReplaced (hstored : Stores document keys value)
    (h : ¬ IsReplaced document keys) : lastAt? document keys = some value := by
  induction hstored with
  | here value => cases value <;> rfl
  | @inside entries key inner value keys hmem hinner ih =>
    rw [isReplaced_mapping_iff, not_or, not_exists] at h
    obtain ⟨hfollowed, hrest⟩ := h
    rw [lastAt?, latest?_of_not_isFollowed hmem hfollowed]
    exact ih fun hreplaced => hrest inner ⟨hmem, hreplaced⟩

/-- Where the last entries lead to a scalar that is alone no entry on the way is replaced. -/
theorem not_isReplaced_of_lastAt? (hdistinct : HasDistinctKeys document) (hscalar : IsScalar value)
    (halone : IsAlone document keys) (h : lastAt? document keys = some value) :
    ¬ IsReplaced document keys := by
  induction keys generalizing document with
  | nil => exact not_isReplaced_nil
  | cons key rest ih =>
    cases document with
    | mapping entries =>
      obtain ⟨next, hnext, hrest⟩ := Option.bind_eq_some_iff.1 h
      obtain ⟨behind, hbehind, hstored⟩ := exists_stores_of_lastAt? hrest
      -- Whatever the last entry is called, the scalar is behind it and so behind this key.
      have hname : ∀ other, (.string other, next) ∈ entries → Text.lower other = Text.lower key →
          other = key := by
        intro other hmem hother
        have hlowered : lowered (other :: behind) = lowered (key :: rest) := by
          rw [lowered, List.map_cons, hother, ← lowered, hbehind]
          rfl
        exact (List.cons.inj
          (halone.eq_of_lowered_eq (.inside hmem hstored) hscalar hlowered)).1
      rw [isReplaced_mapping_iff]
      rintro (hfollowed | ⟨inner, hinner, hreplaced⟩)
      · obtain ⟨other, inner, hne, hmem, hother, hlatest⟩ :=
          exists_other_of_isFollowed hdistinct.distinct hfollowed
        rw [hnext, Option.some.injEq] at hlatest
        exact hne (hname other (hlatest ▸ hmem) hother)
      · obtain ⟨text, hmem, htext⟩ := mem_of_latest? hnext
        obtain rfl : text = key := hname text hmem htext
        have hsame := lookup?_of_mem hdistinct.distinct hinner
        rw [lookup?_of_mem hdistinct.distinct hmem, Option.some.injEq] at hsame
        subst hsame
        exact ih (hdistinct.values _ hmem) (halone.inside hmem) hrest hreplaced
    | _ => cases h

/-- A scalar that is stored behind keys is found at their path in lower case after the keys of the
document have been lowered, if no entry on the way to it is followed by another one with the same name
in lower case. If no other scalar is stored behind keys that start with these in lower case, or that
these start with, it is found there only then. -/
theorem find_lowerKeys_leaf (hdistinct : HasDistinctKeys document)
    (hstored : Stores document keys value) (hscalar : IsScalar value) :
    (¬ IsReplaced document keys → find (lowerKeys document) (lowered keys) = .ok value) ∧
    (IsAlone document keys →
      (find (lowerKeys document) (lowered keys) = .ok value ↔ ¬ IsReplaced document keys)) := by
  have hkept : ¬ IsReplaced document keys →
      find (lowerKeys document) (lowered keys) = .ok value := fun h =>
    (find_lowerKeys_eq_ok_iff_of_isScalar hscalar).2 (lastAt?_of_not_isReplaced hstored h)
  refine ⟨hkept, fun halone => ⟨fun hfind => ?_, hkept⟩⟩
  rw [find_lowerKeys_eq_ok_iff_of_isScalar hscalar] at hfind
  exact not_isReplaced_of_lastAt? hdistinct hscalar halone hfind

/-! ## Sections in two spellings -/

/-- Two sections with names that are the same in lower case. -/
def twoSections : Value :=
  named [("NAT", named [("first", integer 1)]), ("nat", named [("second", integer 2)])]

/-- The keys of both are distinct as they are written. -/
theorem hasDistinctKeys_twoSections : HasDistinctKeys twoSections := by
  have hsection : ∀ (name : String) (number : Nat),
      HasDistinctKeys (named [(name, integer number)]) := fun name number =>
    .mapping (List.pairwise_singleton _ _) (List.forall_mem_singleton.2 (.leaf nofun))
  refine .mapping ?_ ?_
  · exact List.pairwise_cons.2 ⟨List.forall_mem_singleton.2 rfl, List.pairwise_singleton _ _⟩
  · exact List.forall_mem_cons.2 ⟨hsection "first" 1, List.forall_mem_singleton.2 (hsection "second" 2)⟩

/-- Each section stores one number. -/
theorem stores_twoSections : Stores twoSections ["NAT", "first"] (integer 1) ∧
    Stores twoSections ["nat", "second"] (integer 2) :=
  ⟨.inside List.mem_cons_self (.inside List.mem_cons_self (.here _)),
    .inside (List.mem_cons_of_mem _ List.mem_cons_self) (.inside List.mem_cons_self (.here _))⟩

/-- A scalar in a mapping from names is stored behind one of them. -/
theorem exists_of_stores_named {list : List (String × Value)} (h : Stores (named list) keys value)
    (hscalar : IsScalar value) : ∃ entry ∈ list, ∃ rest, keys = entry.1 :: rest ∧
      Stores entry.2 rest value := by
  cases h with
  | here => exact absurd hscalar id
  | @inside _ key inner _ rest hmem hstored =>
    obtain ⟨entry, hentry, hsame⟩ := List.mem_map.1 hmem
    cases hsame
    exact ⟨entry, hentry, rest, rfl, hstored⟩

/-- The number in the first section is alone. -/
theorem isAlone_first : IsAlone twoSections ["NAT", "first"] := by
  intro other given hstored hscalar hne
  have hsection : ∀ (name : String) (number : Nat) (keys : List String),
      Stores (named [(name, integer number)]) keys given → keys = [name] := by
    intro name number keys h
    obtain ⟨_, hentry, rest, rfl, hinner⟩ := exists_of_stores_named h hscalar
    rw [List.mem_singleton.1 hentry] at hinner ⊢
    cases hinner
    rfl
  obtain ⟨_, hentry, rest, rfl, hinner⟩ := exists_of_stores_named hstored hscalar
  rcases List.mem_cons.1 hentry with rfl | hentry
  · exact absurd (congrArg _ (hsection _ _ _ hinner)) hne
  · obtain rfl := List.mem_singleton.1 hentry
    rw [hsection _ _ _ hinner]
    decide +kernel

/-- Of two sections with names that are the same in lower case the last one is kept, and the number in
the first one is not found. -/
theorem find_lowerKeys_twoSections :
    find (lowerKeys twoSections) (lowered ["nat", "second"]) = .ok (integer 2) ∧
    find (lowerKeys twoSections) (lowered ["NAT", "first"]) ≠ .ok (integer 1) := by
  obtain ⟨hfirst, hsecond⟩ := stores_twoSections
  obtain ⟨hkept, _⟩ := find_lowerKeys_leaf hasDistinctKeys_twoSections hsecond trivial
  obtain ⟨_, hlost⟩ := find_lowerKeys_leaf hasDistinctKeys_twoSections hfirst trivial
  refine ⟨hkept ?_, fun hfind => (hlost isAlone_first).1 hfind ?_⟩
  · -- Nothing comes behind the second section, nor behind the number in it.
    simp [twoSections, named, isReplaced_mapping_iff, isFollowed_cons_iff, not_isFollowed_nil,
      not_isReplaced_nil]
  · refine isReplaced_mapping_iff.2 (.inl (isFollowed_cons_iff.2 (.inl ⟨rfl, ?_⟩)))
    exact ⟨_, List.mem_cons_self, keyOf_eq_iff.2 (by decide +kernel)⟩

/-- The number in the first section is lost when a file is loaded that holds both, although no other
number has the same path in lower case. -/
theorem find_load_twoSections :
    let content := utf8Bytes "NAT:\n  first: 1\nnat:\n  second: 2\n"
    let system : System := {
      current := []
      environment := []
      entries := [(["cfg"], .folder), (["cfg", "config.yaml"], .file content)] }
    ∃ document opened, yaml.read content = some twoSections ∧
      Stores twoSections ["NAT", "first"] (integer 1) ∧ IsAlone twoSections ["NAT", "first"] ∧
      find (lowerKeys twoSections) (lowered ["NAT", "first"]) = .error (.missing ["nat", "first"]) ∧
      (load yaml "cfg").runFrom system = (.ok ⟨"cfg", document⟩, opened) ∧
      find document ["nat", "first"] = .error (.missing ["nat", "first"]) ∧
      find document ["nat", "second"] = .ok (integer 2) := by
  intro content system
  have hread : yaml.read content = some twoSections := by decide +kernel
  have hstored : Stored system "cfg" ["cfg"] content := by
    constructor <;> decide +kernel
  obtain ⟨text, hwrite⟩ : ∃ text, yaml.write (merge defaults (lowerKeys twoSections)) = some text :=
    Option.isSome_iff_exists.1 (by decide +kernel)
  obtain ⟨opened, hload, _⟩ :=
    hstored.load (chosenFolder_of_find? hstored.folder) (loaded_eq_merge nofun hread) hwrite
  exact ⟨_, opened, hread, stores_twoSections.1, isAlone_first, by decide +kernel, hload,
    by decide +kernel, by decide +kernel⟩

end NatGateway.Configuration
