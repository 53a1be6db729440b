import NatGateway.Proofs.Configuration.Layers
import NatGateway.Proofs.Result

/-!
# What documents hold at paths

A path is followed name by name: what a mapping holds at a path is what the entry with its first
name holds at the rest of it, and a failure inside of the entry is the same failure further down. A
document misses a path if some mapping on the way has no entry with the next name; anything else on
the way that is no mapping is in the way, but nothing is missed. A path of names is a path of keys in
lower case; paths of any keys are followed in the same way.
-/

namespace NatGateway.Configuration

open NatGateway.Yaml (Value Distinct)
open NatGateway.Yaml.Value

variable {entries : List (Value × Value)} {document value next : Value} {name : String}
  {path rest : List String}

/-! ## Finding -/

/-- A failure inside of the entry with a name. -/
def ConfigurationError.inside (name : String) : ConfigurationError → ConfigurationError
  | .missing path => .missing (name :: path)
  | .notMapping path => .notMapping (name :: path)
  | error => error

/-- A failure behind names that have been walked already. -/
def ConfigurationError.behind (walked : List String) : ConfigurationError → ConfigurationError
  | .missing path => .missing (walked ++ path)
  | .notMapping path => .notMapping (walked ++ path)
  | error => error

/-- Going on behind names that have been walked is to go from there, and to fail behind these names.
-/
theorem findFrom_eq (walked : List String) (document : Value) (path : List String) :
    findFrom walked document path = (find document path).mapError (·.behind walked) := by
  induction path generalizing walked document with
  | nil => rfl
  | cons name rest ih =>
    cases document with
    | mapping entries =>
      rw [find, findFrom, findFrom]
      cases lookup? (keyOf name) entries with
      | none => rfl
      | some next =>
        simp only [ih]
        cases find next rest with
        | ok value => rfl
        | error error => cases error <;> simp [ConfigurationError.behind]
    | _ => simp [find, findFrom, ConfigurationError.behind]

/-- At the empty path a document holds itself. -/
@[simp] theorem find_nil : find document [] = .ok document := by
  cases document <;> rfl

/-- What is no mapping holds nothing. -/
theorem find_leaf (h : ∀ entries, document ≠ .mapping entries) :
    find document (name :: rest) = .error (.notMapping []) := by
  cases document with
  | mapping entries => exact absurd rfl (h entries)
  | _ => rfl

/-- A mapping holds what the entry with the first name holds at the rest of a path. -/
theorem find_mapping_of_some (h : lookup? (keyOf name) entries = some next) :
    find (.mapping entries) (name :: rest) = (find next rest).mapError (·.inside name) := by
  rw [find, findFrom, h]
  simp only [findFrom_eq]
  cases find next rest with
  | ok value => rfl
  | error error => cases error <;> rfl

/-- A mapping holds nothing behind a name that no entry has. -/
theorem find_mapping_of_none (h : lookup? (keyOf name) entries = none) :
    find (.mapping entries) (name :: rest) = .error (.missing [name]) := by
  rw [find, findFrom, h]
  rfl

/-- A document holds a value at a path if it has an entry with the first name, and that one holds
the value at the rest. -/
theorem find_cons_eq_ok_iff : find document (name :: rest) = .ok value ↔
    ∃ next, lookup? (keyOf name) (entriesOf document) = some next ∧ find next rest = .ok value := by
  obtain ⟨entries, rfl⟩ | hleaf := mapping_or_leaf document
  · rw [entriesOf]
    cases h : lookup? (keyOf name) entries with
    | none =>
      rw [find_mapping_of_none h]
      simp
    | some next =>
      rw [find_mapping_of_some h, mapError_eq_ok_iff]
      simp
  · rw [find_leaf hleaf, entriesOf_eq_nil hleaf]
    simp [lookup?]

/-- What a document holds at a path is held at the rest of it by what is under the first name. -/
theorem find_under (h : find document (name :: rest) = .ok value) :
    find (under document (keyOf name)) rest = .ok value := by
  obtain ⟨next, hnext, hvalue⟩ := find_cons_eq_ok_iff.1 h
  rw [under, hnext]
  exact hvalue

/-- What is held further down under a name is held behind the name. -/
theorem find_of_find_under (h : find (under document (keyOf name)) rest = .ok value)
    (hrest : rest ≠ []) : find document (name :: rest) = .ok value := by
  rw [under] at h
  cases hlookup : lookup? (keyOf name) (entriesOf document) with
  | none =>
    obtain ⟨step, rest, rfl⟩ := List.exists_cons_of_ne_nil hrest
    rw [hlookup, Option.getD_none] at h
    cases h
  | some next =>
    rw [hlookup, Option.getD_some] at h
    exact find_cons_eq_ok_iff.2 ⟨next, hlookup, h⟩

/-- What a document holds behind a path is what stands there holds, and a failure there is the same
failure further down. -/
theorem find_append (h : find document path = .ok next) (rest : List String) :
    find document (path ++ rest) = (find next rest).mapError (·.behind path) := by
  induction path generalizing document with
  | nil =>
    rw [find_nil, Except.ok.injEq] at h
    rw [h, List.nil_append]
    exact findFrom_eq [] next rest
  | cons name path ih =>
    obtain ⟨entries, rfl⟩ | hleaf := mapping_or_leaf document
    · obtain ⟨inner, hinner, hnext⟩ := find_cons_eq_ok_iff.1 h
      rw [entriesOf] at hinner
      rw [List.cons_append, find_mapping_of_some hinner, ih hnext]
      cases find next rest with
      | ok value => rfl
      | error error => cases error <;> rfl
    · rw [find_leaf hleaf] at h
      cases h

/-! ## Documents laid over others -/

/-- Behind a name that a mapping has it is laid over what the lower document has under that name. -/
theorem find_merge_of_some (hnamed : IsNamed document) (hdocument : IsNormal document)
    (hentries : Distinct entries) (h : lookup? (keyOf name) entries = some next) :
    find (merge document (.mapping entries)) (name :: rest) =
      (find (merge (under document (keyOf name)) next) rest).mapError (·.inside name) := by
  rw [merge_mapping hnamed.keys hdocument.distinct_entriesOf hentries]
  exact find_mapping_of_some (lookup?_laid_of_some h)

/-- Behind a name that a mapping does not have the values of the lower document are found. -/
theorem find_merge_of_none (hnamed : IsNamed document) (hdocument : IsNormal document)
    (hentries : Distinct entries) (h : lookup? (keyOf name) entries = none) :
    find (merge document (.mapping entries)) (name :: rest) = .ok value ↔
      find document (name :: rest) = .ok value := by
  rw [merge_mapping hnamed.keys hdocument.distinct_entriesOf hentries, find_cons_eq_ok_iff,
    find_cons_eq_ok_iff, entriesOf, keyOf, lookup?_laid_of_none h]

/-! ## Behind keys -/

section

variable {key : Value} {keys others : List Value}

/-- What a document holds behind keys, each in the mapping behind the one before. Keys can be any
values. -/
def heldAt? : Value → List Value → Option Value
  | document, [] => some document
  | .mapping entries, key :: others => (lookup? key entries).bind fun next => heldAt? next others
  | _, _ :: _ => none

/-- Behind no key a document holds itself. -/
@[simp] theorem heldAt?_nil : heldAt? document [] = some document := by
  cases document <;> rfl

/-- Behind keys a document holds what its entry with the first one holds behind the others. -/
theorem heldAt?_cons : heldAt? document (key :: others) =
    (lookup? key (entriesOf document)).bind fun next => heldAt? next others := by
  cases document <;> rfl

/-- Looking up a path of names is looking for their keys. -/
theorem find_eq_ok_iff_heldAt? {names : List String} :
    find document names = .ok value ↔ heldAt? document (names.map keyOf) = some value := by
  induction names generalizing document with
  | nil => simp
  | cons name names ih =>
    simp only [find_cons_eq_ok_iff, List.map_cons, heldAt?_cons, Option.bind_eq_some_iff, ih]

/-- Whether something that is no mapping stands in a document on the way along keys. -/
def IsCut (document : Value) (keys : List Value) : Prop :=
  ∃ front given, front <+: keys ∧ front ≠ keys ∧ heldAt? document front = some given ∧
    ∀ entries, given ≠ .mapping entries

/-- Nothing stands on the way along no keys. -/
theorem not_isCut_nil : ¬ IsCut document [] := by
  rintro ⟨front, given, hprefix, hne, _⟩
  exact hne (List.prefix_nil.1 hprefix)

/-- What is no mapping stands on every way along keys itself. -/
theorem isCut_leaf (h : ∀ entries, document ≠ .mapping entries) : IsCut document (key :: others) :=
  ⟨[], document, List.nil_prefix, (List.cons_ne_nil key others).symm, heldAt?_nil, h⟩

/-- In a mapping something stands on the way if it does in the entry with the first key. -/
theorem isCut_mapping_iff : IsCut (.mapping entries) (key :: others) ↔
    ∃ next, lookup? key entries = some next ∧ IsCut next others := by
  constructor
  · rintro ⟨front, given, hprefix, hne, hheld, hleaf⟩
    cases front with
    | nil =>
      rw [heldAt?_nil, Option.some.injEq] at hheld
      exact absurd hheld.symm (hleaf entries)
    | cons first front =>
      obtain ⟨rfl, hothers⟩ := List.cons_prefix_cons.1 hprefix
      obtain ⟨next, hnext, hgiven⟩ := Option.bind_eq_some_iff.1 hheld
      exact ⟨next, hnext, front, given, hothers, fun heq => hne (congrArg _ heq), hgiven, hleaf⟩
  · rintro ⟨next, hnext, front, given, hprefix, hne, hheld, hleaf⟩
    refine ⟨key :: front, given, List.cons_prefix_cons.2 ⟨rfl, hprefix⟩, ?_, ?_, hleaf⟩
    · exact fun heq => hne (List.cons.inj heq).2
    · exact Option.bind_eq_some_iff.2 ⟨next, hnext, hheld⟩

end

/-! ## Missing -/

/-- Whether a mapping on the way along a path has no entry with the next name. -/
def Misses (document : Value) (path : List String) : Prop :=
  ∃ shown, find document path = .error (.missing shown)

/-- Nothing is missed at the empty path. -/
theorem not_misses_nil : ¬ Misses document [] := by
  rintro ⟨shown, h⟩
  rw [find_nil] at h
  cases h

/-- What is no mapping misses nothing. -/
theorem not_misses_leaf (h : ∀ entries, document ≠ .mapping entries) : ¬ Misses document path := by
  cases path with
  | nil => exact not_misses_nil
  | cons name rest =>
    rintro ⟨shown, hshown⟩
    rw [find_leaf h] at hshown
    cases hshown

/-- A mapping misses every path behind a name that no entry has. -/
theorem misses_of_none (h : lookup? (keyOf name) entries = none) :
    Misses (.mapping entries) (name :: rest) :=
  ⟨[name], find_mapping_of_none h⟩

/-- A mapping misses what the entry with the first name misses. -/
theorem misses_iff_of_some (h : lookup? (keyOf name) entries = some next) :
    Misses (.mapping entries) (name :: rest) ↔ Misses next rest := by
  rw [Misses, Misses, find_mapping_of_some h]
  cases find next rest with
  | ok value => simp
  | error error => cases error <;> simp [ConfigurationError.inside]

end NatGateway.Configuration
