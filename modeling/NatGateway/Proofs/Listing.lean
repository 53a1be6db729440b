import Mathlib.Data.List.Basic
import Mathlib.Tactic.Choose

/-!
# Lists of what stands in order

A list is the listing of what stands at some places if it goes through all of these places in their
order and holds what stands there. So nothing is lost, nothing comes twice, and nothing comes too
early. What stands below other things is listed thing by thing, which is how walks through a tree go.
-/

namespace NatGateway

variable {ι κ μ α β : Type} [LT ι] [LT κ] [LT μ]

/-- Whether things stand with their places in a list, in the order of the places: all that stands at
some place, and nothing else. -/
structure IsPlaced (At : ι → α → Prop) (placed : List (ι × α)) : Prop where
  ascending : placed.Pairwise fun a b => a.1 < b.1
  mem_iff : ∀ place thing, (place, thing) ∈ placed ↔ At place thing

/-- Whether a list holds what stands at some places, in the order of the places. -/
def Lists (At : ι → α → Prop) (things : List α) : Prop :=
  ∃ placed, IsPlaced At placed ∧ placed.map (·.2) = things

namespace Lists

variable {At At' : ι → α → Prop} {things : List α}

/-- A listing is one of all that stands at the same places. -/
theorem congr (h : Lists At things) (hat : ∀ place thing, At place thing ↔ At' place thing) :
    Lists At' things := by
  obtain ⟨placed, hplaced, hthings⟩ := h
  exact ⟨placed, ⟨hplaced.ascending, fun place thing =>
    (hplaced.mem_iff place thing).trans (hat place thing)⟩, hthings⟩

/-- What is listed stands at some place. -/
theorem mem_iff (h : Lists At things) {thing : α} : thing ∈ things ↔ ∃ place, At place thing := by
  obtain ⟨placed, hplaced, rfl⟩ := h
  simp only [List.mem_map, Prod.exists, exists_eq_right, hplaced.mem_iff]

/-- Where nothing stands nothing is listed. -/
theorem nil (h : ∀ place thing, ¬ At place thing) : Lists At [] :=
  ⟨[], ⟨.nil, fun place thing => ⟨nofun, fun hat => (h place thing hat).elim⟩⟩, rfl⟩

/-- What stands in front of all others is listed first. -/
theorem cons (least : ι) (first : α) (h : Lists At things)
    (hleast : ∀ place thing, At place thing → least < place) :
    Lists (fun place thing => place = least ∧ thing = first ∨ At place thing) (first :: things) := by
  obtain ⟨placed, hplaced, rfl⟩ := h
  refine ⟨(least, first) :: placed, ⟨List.pairwise_cons.2 ⟨?_, hplaced.ascending⟩, ?_⟩, rfl⟩
  · rintro ⟨place, thing⟩ hmem
    exact hleast place thing ((hplaced.mem_iff place thing).1 hmem)
  · intro place thing
    rw [List.mem_cons, Prod.mk.injEq, hplaced.mem_iff]

/-- What is moved to other places keeps its order if the places do. -/
theorem moved (move : ι → κ) (h : Lists At things)
    (hmove : ∀ {place place'}, place < place' → move place < move place') :
    Lists (fun place thing => ∃ before, place = move before ∧ At before thing) things := by
  obtain ⟨placed, hplaced, rfl⟩ := h
  refine ⟨placed.map fun pair => (move pair.1, pair.2),
    ⟨List.pairwise_map.2 (hplaced.ascending.imp hmove), fun place thing => ?_⟩, ?_⟩
  · simp only [List.mem_map, Prod.exists, Prod.mk.injEq, hplaced.mem_iff]
    constructor
    · rintro ⟨before, _, hat, rfl, rfl⟩
      exact ⟨before, rfl, hat⟩
    · rintro ⟨before, rfl, hat⟩
      exact ⟨before, thing, hat, rfl, rfl⟩
  · rw [List.map_map]
    rfl

/-- What is made of listed things is listed as they are. -/
theorem map (make : α → β) (h : Lists At things) :
    Lists (fun place made => ∃ thing, At place thing ∧ make thing = made) (things.map make) := by
  obtain ⟨placed, hplaced, rfl⟩ := h
  refine ⟨placed.map fun pair => (pair.1, make pair.2),
    ⟨List.pairwise_map.2 hplaced.ascending, fun place made => ?_⟩, ?_⟩
  · simp only [List.mem_map, Prod.exists, Prod.mk.injEq, hplaced.mem_iff]
    constructor
    · rintro ⟨_, thing, hat, rfl, rfl⟩
      exact ⟨thing, hat, rfl⟩
    · rintro ⟨thing, hat, rfl⟩
      exact ⟨place, thing, hat, rfl, rfl⟩
  · rw [List.map_map, List.map_map]
    rfl

/-- What is made of some of the listed things is listed as they are. -/
theorem filterMap (make? : α → Option β) (h : Lists At things) :
    Lists (fun place made => ∃ thing, At place thing ∧ make? thing = some made)
      (things.filterMap make?) := by
  obtain ⟨placed, hplaced, rfl⟩ := h
  refine ⟨placed.filterMap fun pair => (make? pair.2).map (pair.1, ·),
    ⟨List.pairwise_filterMap.2 (hplaced.ascending.imp fun {first second} hlt => ?_),
      fun place made => ?_⟩, ?_⟩
  · intro made hmade made' hmade'
    obtain ⟨_, _, rfl⟩ := Option.map_eq_some_iff.1 hmade
    obtain ⟨_, _, rfl⟩ := Option.map_eq_some_iff.1 hmade'
    exact hlt
  · simp only [List.mem_filterMap, Prod.exists, Option.map_eq_some_iff, Prod.mk.injEq, hplaced.mem_iff]
    constructor
    · rintro ⟨_, thing, hat, _, hmake, rfl, rfl⟩
      exact ⟨thing, hat, hmake⟩
    · rintro ⟨thing, hat, hmake⟩
      exact ⟨place, thing, hat, made, hmake, rfl, rfl⟩
  · rw [List.map_filterMap, List.filterMap_map]
    refine List.filterMap_congr fun pair _ => ?_
    change ((make? pair.2).map (pair.1, ·)).map (·.2) = make? pair.2
    cases make? pair.2 <;> rfl

/-- What stands below listed things is listed thing by thing, if the places below a thing come in front
of those below the things behind it. -/
theorem flatMap {Below : α → κ → β → Prop} {below : α → List β} (join : ι → κ → μ)
    (h : Lists At things) (hbelow : ∀ thing ∈ things, Lists (Below thing) (below thing))
    (houter : ∀ {place place' thing thing'}, At place thing → At place' thing' → place < place' →
      ∀ inner inner', join place inner < join place' inner')
    (hinner : ∀ place {inner inner'}, inner < inner' → join place inner < join place inner') :
    Lists (fun whole other => ∃ place thing inner, whole = join place inner ∧ At place thing ∧
      Below thing inner other) (things.flatMap below) := by
  obtain ⟨placed, hplaced, rfl⟩ := h
  choose! placedBelow hplacedBelow using hbelow
  have hmem : ∀ pair ∈ placed, pair.2 ∈ placed.map (·.2) := fun pair => List.mem_map_of_mem
  refine ⟨placed.flatMap fun pair => (placedBelow pair.2).map fun other =>
    (join pair.1 other.1, other.2), ⟨List.pairwise_flatMap.2 ⟨?_, ?_⟩, ?_⟩, ?_⟩
  · intro pair hpair
    exact List.pairwise_map.2 ((hplacedBelow _ (hmem pair hpair)).1.ascending.imp (hinner pair.1))
  · refine hplaced.ascending.imp_of_mem fun {pair pair'} hpair hpair' hlt => ?_
    rintro _ hother _ hother'
    obtain ⟨other, _, rfl⟩ := List.mem_map.1 hother
    obtain ⟨other', _, rfl⟩ := List.mem_map.1 hother'
    exact houter ((hplaced.mem_iff _ _).1 hpair) ((hplaced.mem_iff _ _).1 hpair') hlt _ _
  · intro whole other
    simp only [List.mem_flatMap, List.mem_map, Prod.exists, Prod.mk.injEq]
    constructor
    · rintro ⟨place, thing, hpair, inner, _, hother, rfl, rfl⟩
      exact ⟨place, thing, inner, rfl, (hplaced.mem_iff _ _).1 hpair,
        ((hplacedBelow thing (hmem _ hpair)).1.mem_iff _ _).1 hother⟩
    · rintro ⟨place, thing, inner, rfl, hat, hother⟩
      have hpair := (hplaced.mem_iff place thing).2 hat
      exact ⟨place, thing, hpair, inner, other,
        ((hplacedBelow thing (hmem _ hpair)).1.mem_iff _ _).2 hother, rfl, rfl⟩
  · rw [List.map_flatMap, List.flatMap_map]
    refine List.flatMap_congr fun pair hpair => ?_
    rw [List.map_map, ← (hplacedBelow _ (hmem pair hpair)).2]
    rfl

end Lists

/-- The elements of a list that pass a test, by their positions. -/
theorem lists_filter (test : α → Bool) (list : List α) :
    Lists (fun (i : Nat) item => list[i]? = some item ∧ test item = true) (list.filter test) := by
  induction list with
  | nil => exact .nil fun i item h => by cases h.1
  | cons first rest ih =>
    have hrest := ih.moved (· + 1) Nat.succ_lt_succ
    have hfirst : ∀ item, first = item ∧ test item = true ↔ item = first ∧ test first = true := by
      intro item
      constructor <;> (rintro ⟨rfl, htest⟩; exact ⟨rfl, htest⟩)
    cases htest : test first with
    | true =>
      have hleast : ∀ (i : Nat) item,
          (∃ j, i = j + 1 ∧ rest[j]? = some item ∧ test item = true) → 0 < i := by
        rintro _ item ⟨j, rfl, _⟩
        exact Nat.succ_pos j
      rw [List.filter_cons_of_pos htest]
      refine (hrest.cons 0 first hleast).congr fun i item => ?_
      cases i with
      | zero => simp [hfirst, htest]
      | succ j => simp
    | false =>
      rw [List.filter_cons_of_neg (Bool.eq_false_iff.1 htest)]
      refine hrest.congr fun i item => ?_
      cases i with
      | zero => simp [hfirst, htest]
      | succ j => simp

end NatGateway
