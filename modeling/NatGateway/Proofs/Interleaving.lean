import Mathlib.Data.List.Perm.Basic

/-!
# Interleavings

The orders in which the steps of several threads can follow one another, when each thread takes its
own steps in order and any of them may take the next one. All steps are taken, the last of them is
the last one of its thread, and the steps of one kind are themselves an interleaving of those that
the threads take of that kind. Every list is an interleaving of what passes a test and what does not.
-/

namespace NatGateway

variable {α β : Type} {threads : List (List α)} {trace first second : List α} {step : α}

/-- The traces of threads that take their steps one at a time. -/
inductive Interleaves : List (List α) → List α → Prop
  | done {threads : List (List α)} (ended : ∀ thread ∈ threads, thread = []) : Interleaves threads []
  | step {front back : List (List α)} {step : α} {rest trace : List α}
      (later : Interleaves (front ++ rest :: back) trace) :
      Interleaves (front ++ (step :: rest) :: back) (step :: trace)

/-- Where no step is left to take, no thread has one left. -/
theorem Interleaves.ended (h : Interleaves threads []) : ∀ thread ∈ threads, thread = [] := by
  generalize htrace : [] = trace at h
  cases h with
  | done hended => exact hended
  | step _ => cases htrace

/-- The steps of an interleaving are those of all threads. -/
theorem Interleaves.perm_flatten (h : Interleaves threads trace) : trace.Perm threads.flatten := by
  induction h with
  | done hended => rw [List.flatten_eq_nil_iff.2 hended]
  | @step front back step rest trace _ ih =>
    rw [List.flatten_append, List.flatten_cons] at ih ⊢
    rw [List.cons_append]
    exact (ih.cons step).trans List.perm_middle.symm

/-- The last step of an interleaving is the last one of a thread. -/
theorem Interleaves.exists_getLast? (h : Interleaves threads trace)
    (hlast : trace.getLast? = some step) : ∃ thread ∈ threads, thread.getLast? = some step := by
  induction h with
  | done _ => cases hlast
  | @step front back next rest trace hlater ih =>
    cases trace with
    | nil =>
      -- No thread goes on, so that this was the last step of this one.
      have hrest : rest = [] := hlater.ended rest (by simp)
      exact ⟨next :: rest, by simp, by rw [hrest]; exact hlast⟩
    | cons later trace =>
      rw [List.getLast?_cons_cons] at hlast
      obtain ⟨thread, hthread, hend⟩ := ih hlast
      rcases List.mem_append.1 hthread with hfront | hback
      · exact ⟨thread, List.mem_append_left _ hfront, hend⟩
      · rcases List.mem_cons.1 hback with rfl | hback
        · refine ⟨next :: thread, by simp, ?_⟩
          rw [List.getLast?_cons, hend, Option.getD_some]
        · exact ⟨thread, List.mem_append_right _ (List.mem_cons_of_mem _ hback), hend⟩

/-- What steps stand for comes in an interleaving of what the steps of each thread stand for. -/
theorem Interleaves.filterMap (h : Interleaves threads trace) (kind : α → Option β) :
    Interleaves (threads.map (List.filterMap kind)) (trace.filterMap kind) := by
  induction h with
  | done hended =>
    refine .done (List.forall_mem_map.2 fun thread hthread => ?_)
    rw [hended thread hthread, List.filterMap_nil]
  | @step front back step rest trace _ ih =>
    rw [List.map_append, List.map_cons] at ih ⊢
    cases hkind : kind step with
    | none => rwa [List.filterMap_cons_none hkind, List.filterMap_cons_none hkind]
    | some stood =>
      rw [List.filterMap_cons_some hkind, List.filterMap_cons_some hkind]
      exact .step ih

/-! ## Two threads -/

/-- The first one of two threads may take the next step. -/
theorem Interleaves.cons_left {rest : List α} (h : Interleaves [rest, second] trace) :
    Interleaves [step :: rest, second] (step :: trace) :=
  @Interleaves.step α [] [second] step rest trace h

/-- The second one of two threads may take the next step. -/
theorem Interleaves.cons_right {rest : List α} (h : Interleaves [first, rest] trace) :
    Interleaves [first, step :: rest] (step :: trace) :=
  @Interleaves.step α [first] [] step rest trace h

/-- Of two threads the first or the second one takes the next step. -/
theorem interleaves_pair_cons_iff : Interleaves [first, second] (step :: trace) ↔
    (∃ rest, first = step :: rest ∧ Interleaves [rest, second] trace) ∨
      ∃ rest, second = step :: rest ∧ Interleaves [first, rest] trace := by
  constructor
  · intro h
    generalize hthreads : [first, second] = threads at h
    cases h with
    | @step front back _ rest _ hlater =>
      cases front with
      | nil =>
        cases hthreads
        exact .inl ⟨rest, rfl, hlater⟩
      | cons thread front =>
        cases front with
        | nil =>
          cases hthreads
          exact .inr ⟨rest, rfl, hlater⟩
        | cons other front => cases front <;> cases hthreads
  · rintro (⟨rest, rfl, h⟩ | ⟨rest, rfl, h⟩)
    · exact h.cons_left
    · exact h.cons_right

/-- A list is an interleaving of what passes a test and what does not. -/
theorem interleaves_filter (test : α → Bool) (list : List α) :
    Interleaves [list.filter test, list.filter (!test ·)] list := by
  induction list with
  | nil => exact .done (by simp)
  | cons item rest ih =>
    cases htest : test item with
    | true =>
      rw [List.filter_cons_of_pos htest, List.filter_cons_of_neg (by simp [htest])]
      exact ih.cons_left
    | false =>
      rw [List.filter_cons_of_neg (by simp [htest]), List.filter_cons_of_pos (by simp [htest])]
      exact ih.cons_right

end NatGateway
