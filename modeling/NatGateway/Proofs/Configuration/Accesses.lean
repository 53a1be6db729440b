import NatGateway.Proofs.Configuration.Changes
import NatGateway.Proofs.Configuration.Separate
import NatGateway.Proofs.Interleaving

/-!
# Reading while something is written

One thread puts values into a configuration, and another one looks things up in it, each look-up and
each put by itself. What a look-up meets is the document with those values in it that have been put by
then, so the reader sees one number of puts after another, of which none is less than the one before;
and every such sequence of numbers is what it sees in some order of the accesses.
-/

namespace NatGateway.Configuration

open NatGateway.Yaml (Value)

variable {format : Format} {store : Store} {document value : Value} {path : List String}
  {writes : List Update} {paths : List (List String)} {counts : List Nat}
  {place count : Nat}

/-! ## Accesses -/

/-- An access to a configuration that others share, during which none of them comes in. -/
inductive Access where
  | put (update : Update)
  | get (path : List String)

/-- The documents in which paths are looked up by accesses that come one after another. -/
def met (format : Format) : List Access → Store → List (List String × Value)
  | [], _ => []
  | .put update :: rest, store =>
      met format rest ((Store.put format update.1 update.2).runFrom store).2
  | .get path :: rest, store => (path, store.configuration.document) :: met format rest store

variable {trace : List Access}

/-- The document after a value has been put, whether or not it could be put there and saved. -/
theorem document_put : ((Store.put format path value).runFrom store).2.configuration.document =
    updated store.configuration.document path value := by
  rw [Store.put, bind_runFrom, Store.change, bind_runFrom, get_runFrom, updated]
  cases hupdate : update store.configuration.document path value with
  | error error =>
    simp only [hupdate]
    rfl
  | ok document =>
    simp only [hupdate]
    change ((Store.save format).runFrom _).2.configuration.document = document
    rw [save_runFrom]

/-- The documents after so many updates, for paths that are looked up then. -/
def metAfter (writes : List Update) (document : Value) (paths : List (List String))
    (counts : List Nat) : List (List String × Value) :=
  List.zipWith (fun path count => (path, run (writes.take count) document)) paths counts

/-- So many of the first updates are the same number of all of them. -/
theorem metAfter_of_prefix {others : List Update} (hwrites : writes <+: others)
    (h : ∀ count ∈ counts, count ≤ writes.length) :
    metAfter writes document paths counts = metAfter others document paths counts := by
  obtain ⟨rest, rfl⟩ := hwrites
  induction counts generalizing paths with
  | nil => rw [metAfter, metAfter, List.zipWith_nil_right, List.zipWith_nil_right]
  | cons count counts ih =>
    rw [List.forall_mem_cons] at h
    cases paths with
    | nil => rfl
    | cons path paths =>
      rw [metAfter, metAfter, List.zipWith_cons_cons, List.zipWith_cons_cons, ← metAfter, ← metAfter,
        ih h.2, List.take_append_of_le_length h.1]

/-- Where all of these documents are the same, each path is looked up in that one. -/
theorem metAfter_of_forall {after : Value} (hlength : counts.length = paths.length)
    (h : ∀ count ∈ counts, run (writes.take count) document = after) :
    metAfter writes document paths counts = paths.map (·, after) := by
  induction counts generalizing paths with
  | nil => rw [List.length_eq_zero_iff.1 hlength.symm, metAfter, List.zipWith_nil_right, List.map_nil]
  | cons count counts ih =>
    obtain ⟨hcount, hcounts⟩ := List.forall_mem_cons.1 h
    cases paths with
    | nil => cases hlength
    | cons path paths =>
      rw [metAfter, List.zipWith_cons_cons, ← metAfter, ih (Nat.succ.inj hlength) hcounts, hcount,
        List.map_cons]

/-- Numbers of updates that a reader may see at its look-ups: each of them at most all updates, and
none less than the one before. -/
structure AreCounts (writes : List Update) (paths : List (List String)) (counts : List Nat) : Prop where
  length_eq : counts.length = paths.length
  ordered : counts.Pairwise (· ≤ ·)
  bounded : ∀ count ∈ counts, count ≤ writes.length

/-- The numbers after the first one are numbers for the look-ups after the first one. -/
theorem AreCounts.exists_tail (h : AreCounts writes paths (count :: counts)) :
    ∃ path later, paths = path :: later ∧ AreCounts writes later counts ∧
      ∀ other ∈ counts, count ≤ other := by
  obtain ⟨hfirst, hordered⟩ := List.pairwise_cons.1 h.ordered
  cases paths with
  | nil => cases h.length_eq
  | cons path later =>
    refine ⟨path, later, rfl, ⟨Nat.succ.inj h.length_eq, hordered, ?_⟩, hfirst⟩
    exact fun other hother => h.bounded other (List.mem_cons_of_mem _ hother)

/-- Where each look-up has seen an update, the numbers of the others are those of the updates after
it. -/
theorem AreCounts.pred {update : Update} (h : AreCounts (update :: writes) paths counts) :
    AreCounts writes paths (counts.map (· - 1)) := by
  refine ⟨?_, ?_, ?_⟩
  · rw [List.length_map, h.length_eq]
  · exact h.ordered.map _ fun _ _ hle => Nat.sub_le_sub_right hle 1
  · exact List.forall_mem_map.2 fun count hcount => Nat.sub_le_of_le_add (h.bounded count hcount)

/-- The accesses of a writer and a reader that come in some order. -/
def Concurrent (writes : List Update) (paths : List (List String)) (trace : List Access) : Prop :=
  Interleaves [writes.map .put, paths.map .get] trace

/-- After an update that a reader has not missed it meets what it would have met from there. -/
theorem metAfter_succ {update : Update} :
    metAfter (update :: writes) document paths (counts.map (· + 1)) =
      metAfter writes (updated document update.1 update.2) paths counts := by
  rw [metAfter, List.zipWith_map_right]
  rfl

/-- A reader meets the documents after one number of updates and another, none less than the one
before. -/
theorem met_of_concurrent (h : Concurrent writes paths trace) :
    ∃ counts, AreCounts writes paths counts ∧
      met format trace store = metAfter writes store.configuration.document paths counts := by
  induction trace generalizing writes paths store with
  | nil =>
    have hpaths : paths = [] :=
      List.map_eq_nil_iff.1 (h.ended (paths.map .get) (List.mem_cons_of_mem _ List.mem_cons_self))
    rw [hpaths]
    exact ⟨[], ⟨rfl, List.Pairwise.nil, nofun⟩, rfl⟩
  | cons access trace ih =>
    rcases interleaves_pair_cons_iff.1 h with ⟨rest, hwrites, hrest⟩ | ⟨rest, hpaths, hrest⟩
    · obtain ⟨update, updates, rfl, rfl, rfl⟩ := List.map_eq_cons_iff.1 hwrites
      obtain ⟨counts, hcounts, hmet⟩ :=
        @ih ((Store.put format update.1 update.2).runFrom store).2 updates paths hrest
      refine ⟨counts.map (· + 1), ⟨?_, ?_, ?_⟩, ?_⟩
      · rw [List.length_map, hcounts.length_eq]
      · exact hcounts.ordered.map _ fun _ _ hle => Nat.succ_le_succ hle
      · exact List.forall_mem_map.2 fun count hcount => Nat.succ_le_succ (hcounts.bounded count hcount)
      · rw [met, hmet, metAfter_succ, document_put]
    · obtain ⟨path, later, rfl, rfl, rfl⟩ := List.map_eq_cons_iff.1 hpaths
      obtain ⟨counts, hcounts, hmet⟩ := @ih store writes later hrest
      refine ⟨0 :: counts, ⟨?_, ?_, ?_⟩, ?_⟩
      · rw [List.length_cons, List.length_cons, hcounts.length_eq]
      · exact List.pairwise_cons.2 ⟨fun _ _ => Nat.zero_le _, hcounts.ordered⟩
      · exact List.forall_mem_cons.2 ⟨Nat.zero_le _, hcounts.bounded⟩
      · rw [met, hmet]
        rfl

/-- A reader that has not seen any update looks up the next path first. -/
theorem exists_concurrent_get
    (h : ∃ trace, Concurrent writes paths trace ∧
      met format trace store = metAfter writes store.configuration.document paths counts) :
    ∃ trace, Concurrent writes (path :: paths) trace ∧
      met format trace store =
        metAfter writes store.configuration.document (path :: paths) (0 :: counts) := by
  obtain ⟨trace, htrace, hmet⟩ := h
  refine ⟨.get path :: trace, Interleaves.cons_right htrace, ?_⟩
  rw [met, hmet]
  rfl

/-- A reader that has seen an update at every look-up lets the writer go first. -/
theorem exists_concurrent_put {update : Update} (hpositive : ∀ count ∈ counts, 0 < count)
    (h : ∀ store : Store, ∃ trace, Concurrent writes paths trace ∧
      met format trace store =
        metAfter writes store.configuration.document paths (counts.map (· - 1))) :
    ∃ trace, Concurrent (update :: writes) paths trace ∧
      met format trace store =
        metAfter (update :: writes) store.configuration.document paths counts := by
  obtain ⟨trace, htrace, hmet⟩ := h ((Store.put format update.1 update.2).runFrom store).2
  refine ⟨.put update :: trace, Interleaves.cons_left htrace, ?_⟩
  have hcounts : (counts.map (· - 1)).map (· + 1) = counts := by
    rw [List.map_map]
    exact (List.map_congr_left fun count hcount => Nat.sub_add_cancel (hpositive count hcount)).trans
      (List.map_id counts)
  rw [met, hmet, document_put, ← metAfter_succ, hcounts]

/-- In some order of the accesses a reader meets the documents after these numbers of updates. -/
theorem exists_concurrent (h : AreCounts writes paths counts) :
    ∃ trace, Concurrent writes paths trace ∧
      met format trace store = metAfter writes store.configuration.document paths counts := by
  induction writes generalizing paths counts store with
  | nil =>
    induction counts generalizing paths with
    | nil =>
      rw [List.length_eq_zero_iff.1 h.length_eq.symm]
      exact ⟨[], .done (by simp), rfl⟩
    | cons count counts ih =>
      obtain ⟨path, later, rfl, hlater, _⟩ := h.exists_tail
      rw [Nat.le_zero.1 (h.bounded count List.mem_cons_self)]
      exact exists_concurrent_get (ih hlater)
  | cons update writes ih =>
    induction counts generalizing paths with
    | nil => exact exists_concurrent_put nofun fun store => ih h.pred
    | cons count counts inner =>
      obtain ⟨path, later, rfl, hlater, hleast⟩ := h.exists_tail
      rcases count.eq_zero_or_pos with rfl | hcount
      · exact exists_concurrent_get (inner hlater)
      · refine exists_concurrent_put (List.forall_mem_cons.2 ⟨hcount, ?_⟩) fun store => ih h.pred
        exact fun other hother => Nat.lt_of_lt_of_le hcount (hleast other hother)

/-! ## What a reader finds -/

/-- After some of several updates at paths apart, one that is among them is found, if nothing is in
the way. -/
theorem find_run_take_of_lt (hapart : AreApart writes) (hwrite : writes[place]? = some (path, value))
    (hlt : place < count) (hfree : ¬ IsBlocked document path) :
    find (run (writes.take count) document) path = .ok value := by
  have hsome : AreApart (writes.take count) := List.Pairwise.sublist (List.take_sublist _ _) hapart
  have hmem : (writes.take count)[place]? = some (path, value) := by
    rw [List.getElem?_take_of_lt hlt]
    exact hwrite
  exact find_run_of_mem hsome (List.mem_of_getElem? hmem) hfree

/-- After some of several updates at paths apart, the path of one that is not among them reads as
before. -/
theorem readsAs_run_take_of_le (hapart : AreApart writes) (hwrite : writes[place]? = some (path, value))
    (hle : count ≤ place) :
    ReadsAs (find document path) (find (run (writes.take count) document) path) := by
  refine readsAs_run fun other hother => ?_
  obtain ⟨index, hindex, hother⟩ := List.mem_take_iff_getElem.1 hother
  obtain ⟨hplace, hsame⟩ := List.getElem?_eq_some_iff.1 hwrite
  have hbefore : index < place := by omega
  have hpair := List.pairwise_iff_getElem.1 hapart index place (by omega) hplace hbefore
  rw [hother, hsame] at hpair
  exact hpair.symm

/-- Updates of which each one is blocked change nothing. -/
theorem run_of_isBlocked (h : ∀ update ∈ writes, IsBlocked document update.1) :
    run writes document = document := by
  induction writes with
  | nil => rfl
  | cons update rest ih =>
    rw [List.forall_mem_cons] at h
    rw [run, List.foldl_cons, updated_of_isBlocked h.1]
    exact ih h.2

end NatGateway.Configuration
