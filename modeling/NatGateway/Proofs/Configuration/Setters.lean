import Mathlib.Data.List.Infix
import NatGateway.Proofs.Configuration.Persistence
import NatGateway.Proofs.Configuration.Separate
import NatGateway.Proofs.Interleaving

/-!
# Setters at the same time

Putting a value takes two steps, each of which holds the lock: the change in memory, and saving. In
between, other threads may change and save the document. A step that saves puts the document of that
moment into the file, and every thread ends with such a step, so the file holds the last document
when all are done, and that is what all updates make of the first one, one after another in the order
of the changes. All steps succeed if the updates do in that order and each document on the way can be
written.
-/

namespace NatGateway.Configuration

open NatGateway.Text (Bytes utf8Bytes)
open NatGateway.Yaml (Value)

variable {format : Format} {store after : Store} {document value : Value} {given : String}
  {path : List String} {location : Location} {content : Bytes} {updates : List Update}
  {threads : List (List Update)}

/-! ## Steps -/

/-- A step of putting a value: the change of the document, or saving it. -/
inductive Step where
  | change (update : Update)
  | save

namespace Step

/-- What a step does. -/
def action (format : Format) : Step → Action Store Unit
  | .change update => Store.change update.1 update.2
  | .save => Store.save format

/-- The update that a step makes, unless it saves. -/
def update? : Step → Option Update
  | .change update => some update
  | .save => none

/-- Steps one after another. -/
def runAll (format : Format) (steps : List Step) : Action Store Unit := steps.forM (action format)

end Step

variable {step : Step} {trace : List Step}

/-- The steps in which values are put one after another. -/
def stepsOf (updates : List Update) : List Step :=
  updates.flatMap fun update => [.change update, .save]

/-- In a thread by itself the steps put the values one after another. -/
theorem runAll_stepsOf_eq_ok_iff :
    (Step.runAll format (stepsOf updates)).runFrom store = (.ok (), after) ↔
      (putAll format updates).runFrom store = (.ok (), after) := by
  rw [Step.runAll, putAll]
  induction updates generalizing store with
  | nil => rfl
  | cons update rest ih =>
    have hsteps : stepsOf (update :: rest) = .change update :: .save :: stepsOf rest := rfl
    rw [hsteps]
    simp only [forM_cons_eq_ok_iff, ih]
    constructor
    · rintro ⟨changed, hchange, middle, hsave, hrest⟩
      exact ⟨middle, bind_runFrom_eq_ok_iff.2 ⟨(), changed, hchange, hsave⟩, hrest⟩
    · rintro ⟨middle, hput, hrest⟩
      obtain ⟨_, changed, hchange, hsave⟩ := bind_runFrom_eq_ok_iff.1 hput
      exact ⟨changed, hchange, middle, hsave, hrest⟩

/-! ## What steps keep -/

/-- Whether the file of a configuration holds its document. -/
def IsSaved (format : Format) (store : Store) : Prop :=
  ∃ text, format.write store.configuration.document = some text ∧
    store.system.content? (System.join store.configuration.folder fileName) = some (utf8Bytes text)

/-- Updates one after another, none of which may fail. -/
def updateAll (updates : List Update) (document : Value) : Except ConfigurationError Value :=
  updates.foldlM (fun document update => Configuration.update document update.1 update.2) document

/-- Updates succeed if the first one does, and the others after it. -/
theorem updateAll_cons_eq_ok_iff {update : Update} : updateAll (update :: updates) document = .ok value ↔
    ∃ middle, Configuration.update document update.1 update.2 = .ok middle ∧
      updateAll updates middle = .ok value :=
  bind_eq_ok_iff

/-- Updates that none of fails are run. -/
theorem run_of_updateAll (h : updateAll updates document = .ok value) : run updates document = value := by
  induction updates generalizing document with
  | nil => exact Except.ok.inj h
  | cons update rest ih =>
    obtain ⟨middle, hupdate, hrest⟩ := updateAll_cons_eq_ok_iff.1 h
    rw [run, List.foldl_cons, updated_of_update hupdate]
    exact ih hrest

/-- Whether one configuration comes from another by updates, in the same folder with a file in it. -/
structure ComesBy (updates : List Update) (store after : Store) : Prop where
  folder : after.configuration.folder = store.configuration.folder
  document : updateAll updates store.configuration.document = .ok after.configuration.document
  stored : ∃ location content, Stored after.system after.configuration.folder location content

/-- What comes by updates from what comes by others comes by all of them. -/
theorem ComesBy.trans {first second : List Update} {middle : Store} (hfirst : ComesBy first store middle)
    (hsecond : ComesBy second middle after) : ComesBy (first ++ second) store after := by
  refine ⟨hsecond.folder.trans hfirst.folder, ?_, hsecond.stored⟩
  rw [updateAll, List.foldlM_append]
  exact bind_eq_ok_iff.2 ⟨_, hfirst.document, hsecond.document⟩

/-- After a configuration has been saved its file holds its document. -/
theorem isSaved_of_save (hstored : Stored store.system store.configuration.folder location content)
    (h : (Store.save format).runFrom store = (.ok (), after)) :
    IsSaved format after ∧ ComesBy [] store after := by
  obtain ⟨hconfiguration, hsave⟩ := store_save_eq_ok_iff.1 h
  obtain ⟨text, hwrite, hafter, _⟩ := stored_of_save hstored.folder hstored.probe hsave
  rw [← hconfiguration] at hwrite hafter
  refine ⟨⟨text, hwrite, hafter.content?⟩, congrArg Configuration.folder hconfiguration, ?_,
    location, _, hafter⟩
  rw [hconfiguration]
  rfl

/-- A step makes its update, if it has one. -/
theorem comesBy_of_action (hstored : Stored store.system store.configuration.folder location content)
    (h : (step.action format).runFrom store = (.ok (), after)) :
    ComesBy step.update?.toList store after := by
  cases step with
  | change update =>
    obtain ⟨document, hupdate, rfl⟩ := change_eq_ok_iff.1 h
    exact ⟨rfl, updateAll_cons_eq_ok_iff.2 ⟨document, hupdate, rfl⟩, location, content, hstored⟩
  | save => exact (isSaved_of_save hstored h).2

/-- Steps make their updates one after another. -/
theorem comesBy_of_runAll (hstored : Stored store.system store.configuration.folder location content)
    (h : (Step.runAll format trace).runFrom store = (.ok (), after)) :
    ComesBy (trace.filterMap Step.update?) store after := by
  induction trace generalizing store location content with
  | nil =>
    cases h
    exact ⟨rfl, rfl, location, content, hstored⟩
  | cons step rest ih =>
    obtain ⟨middle, hstep, hrest⟩ := forM_cons_eq_ok_iff.1 h
    have hfirst := comesBy_of_action hstored hstep
    obtain ⟨_, _, hmiddle⟩ := hfirst.stored
    have hall := hfirst.trans (ih hmiddle hrest)
    cases hupdate : step.update? with
    | none =>
      rw [hupdate] at hall
      rwa [List.filterMap_cons_none hupdate]
    | some update =>
      rw [hupdate] at hall
      rwa [List.filterMap_cons_some hupdate]

/-- Whenever a step has saved the document the file holds the document of that moment. -/
theorem isSaved_of_runAll_append {front back : List Step}
    (hstored : Stored store.system store.configuration.folder location content)
    (h : (Step.runAll format (front ++ .save :: back)).runFrom store = (.ok (), after)) :
    ∃ middle, (Step.runAll format (front ++ [.save])).runFrom store = (.ok (), middle) ∧
      (Step.runAll format back).runFrom middle = (.ok (), after) ∧ IsSaved format middle := by
  rw [List.append_cons] at h
  obtain ⟨middle, hmiddle, hback⟩ := forM_append_eq_ok_iff.1 h
  obtain ⟨before, hfront, hlast⟩ := forM_append_eq_ok_iff.1 hmiddle
  obtain ⟨saved, hsave, hnil⟩ := forM_cons_eq_ok_iff.1 hlast
  cases hnil
  obtain ⟨hfolder, _, _, _, hbefore⟩ := comesBy_of_runAll hstored hfront
  exact ⟨middle, hmiddle, hback, (isSaved_of_save hbefore hsave).1⟩

/-- Steps that end with saving leave the document in the file. -/
theorem isSaved_of_runAll (hstored : Stored store.system store.configuration.folder location content)
    (hsaved : IsSaved format store) (hend : ∀ {step}, trace.getLast? = some step → step = .save)
    (h : (Step.runAll format trace).runFrom store = (.ok (), after)) : IsSaved format after := by
  rcases List.eq_nil_or_concat' trace with rfl | ⟨front, step, rfl⟩
  · cases h
    exact hsaved
  · rw [hend List.getLast?_concat] at h
    obtain ⟨middle, _, hnil, hlast⟩ := isSaved_of_runAll_append hstored h
    cases hnil
    exact hlast

/-- Steps succeed that make updates which succeed one after another, if each document on the way can be
written. -/
theorem exists_runAll (hstored : Stored store.system store.configuration.folder location content)
    (hupdates : updateAll (trace.filterMap Step.update?) store.configuration.document = .ok value)
    (hwritable : ∀ front ∈ trace.inits, (format.write
      (run (front.filterMap Step.update?) store.configuration.document)).isSome) :
    ∃ after, (Step.runAll format trace).runFrom store = (.ok (), after) ∧
      after.configuration = ⟨store.configuration.folder, value⟩ := by
  induction trace generalizing store content with
  | nil =>
    cases hupdates
    exact ⟨store, rfl, rfl⟩
  | cons step rest ih =>
    rw [List.inits_cons, List.forall_mem_cons, List.forall_mem_map] at hwritable
    obtain ⟨hfirst, hlater⟩ := hwritable
    cases step with
    | change update =>
      obtain ⟨middle, hupdate, hrest⟩ := updateAll_cons_eq_ok_iff.1 hupdates
      have hmiddle : ∀ front ∈ rest.inits,
          (format.write (run (front.filterMap Step.update?) middle)).isSome := by
        intro front hfront
        rw [← updated_of_update hupdate]
        exact hlater front hfront
      obtain ⟨after, hrun, hafter⟩ := @ih ⟨store.system, ⟨store.configuration.folder, middle⟩⟩ _
        hstored hrest hmiddle
      have hchange : (Store.change update.1 update.2).runFrom store =
          (.ok (), ⟨store.system, ⟨store.configuration.folder, middle⟩⟩) :=
        change_eq_ok_iff.2 ⟨middle, hupdate, rfl⟩
      exact ⟨after, forM_cons_eq_ok_iff.2 ⟨_, hchange, hrun⟩, hafter⟩
    | save =>
      obtain ⟨text, hwrite⟩ := Option.isSome_iff_exists.1 hfirst
      obtain ⟨saved, hsave, hsame, hsaved⟩ := hstored.exists_store_save hwrite
      rw [← hsame] at hupdates hlater ⊢
      obtain ⟨after, hrun, hafter⟩ := ih hsaved hupdates hlater
      exact ⟨after, forM_cons_eq_ok_iff.2 ⟨saved, hsave, hrun⟩, hafter⟩

/-! ## Threads -/

/-- A thread that puts values ends with saving. -/
theorem getLast?_stepsOf (h : (stepsOf updates).getLast? = some step) : step = .save := by
  rcases List.eq_nil_or_concat' updates with rfl | ⟨front, update, rfl⟩
  · cases h
  · rw [stepsOf, List.flatMap_append, List.getLast?_append] at h
    exact (Option.some.inj h).symm

/-- The updates of a thread are those of the values that it puts. -/
theorem filterMap_stepsOf (updates : List Update) :
    (stepsOf updates).filterMap Step.update? = updates := by
  induction updates with
  | nil => rfl
  | cons update rest ih =>
    change update :: (stepsOf rest).filterMap Step.update? = _
    rw [ih]

/-- Threads of setters end with saving. -/
theorem getLast?_of_interleaves (h : Interleaves (threads.map stepsOf) trace)
    (hlast : trace.getLast? = some step) : step = .save := by
  obtain ⟨steps, hsteps, hend⟩ := h.exists_getLast? hlast
  obtain ⟨updates, _, rfl⟩ := List.mem_map.1 hsteps
  exact getLast?_stepsOf hend

/-- Of updates that none of fails each one is found whose path is apart from all others. -/
theorem find_of_updateAll {others : List Update} {final : Value}
    (h : updateAll updates document = .ok final) (hperm : updates.Perm ((path, value) :: others))
    (hapart : ∀ other ∈ others, Apart path other.1) : find final path = .ok value := by
  obtain ⟨front, back, rfl⟩ := List.append_of_mem (hperm.mem_iff.2 List.mem_cons_self)
  have hothers : (front ++ back).Perm others := (List.perm_middle.symm.trans hperm).cons_inv
  rw [updateAll, List.foldlM_append] at h
  obtain ⟨before, _, hback⟩ := bind_eq_ok_iff.1 h
  obtain ⟨changed, hupdate, hrest⟩ := updateAll_cons_eq_ok_iff.1 hback
  rw [← run_of_updateAll hrest]
  refine (readsAs_run fun other hother => ?_).ok_iff.2 (find_of_update hupdate)
  exact hapart other (hothers.subset (List.mem_append_right front hother))

/-- When threads put values into a configuration at the same time that has been loaded, and into which
values may have been put since, then, in whatever order their steps come, if all of them succeed, the
file holds the last document, and this is what their updates make of the first one, one after another,
each thread in its own order. A value is found that was put at a path apart from the paths of all
others. Whenever a step has saved, the file holds the document of that moment. -/
theorem putAll_interleaved {system opened : System} {configuration : Configuration}
    {earlier : List Update} {shared : Store}
    (hload : (load format given).runFrom system = (.ok configuration, opened))
    (hearlier : (putAll format earlier).runFrom ⟨opened, configuration⟩ = (.ok (), shared))
    (htrace : Interleaves (threads.map stepsOf) trace)
    (hrun : (Step.runAll format trace).runFrom shared = (.ok (), store)) :
    IsSaved format store ∧
    (∃ order, Interleaves threads order ∧
      updateAll order shared.configuration.document = .ok store.configuration.document) ∧
    (∀ path value others, threads.flatten.Perm ((path, value) :: others) →
      (∀ other ∈ others, Apart path other.1) →
      find store.configuration.document path = .ok value) ∧
    ∀ front back, trace = front ++ .save :: back →
      ∃ middle, (Step.runAll format (front ++ [.save])).runFrom shared = (.ok (), middle) ∧
        IsSaved format middle := by
  obtain ⟨_, text, hwrite, hloaded⟩ := (isLoaded_of_load hload).stored
  have hputs := runAll_stepsOf_eq_ok_iff.2 hearlier
  obtain ⟨_, _, hstored⟩ := (comesBy_of_runAll hloaded hputs).stored
  have hfirst : IsSaved format ⟨opened, configuration⟩ := ⟨text, hwrite, hloaded.content?⟩
  have hsaved := isSaved_of_runAll hloaded hfirst getLast?_stepsOf hputs
  have hdocument := (comesBy_of_runAll hstored hrun).document
  have horder : Interleaves threads (trace.filterMap Step.update?) := by
    have hupdates := htrace.filterMap Step.update?
    have hsame : List.filterMap Step.update? ∘ stepsOf = id := by
      funext updates
      exact filterMap_stepsOf updates
    rwa [List.map_map, hsame, List.map_id] at hupdates
  refine ⟨?_, ⟨_, horder, hdocument⟩, ?_, ?_⟩
  · exact isSaved_of_runAll hstored hsaved (getLast?_of_interleaves htrace) hrun
  · intro path value others hperm hapart
    exact find_of_updateAll hdocument (horder.perm_flatten.trans hperm) hapart
  · rintro front back rfl
    obtain ⟨middle, hmiddle, _, hmoment⟩ := isSaved_of_runAll_append hstored hrun
    exact ⟨middle, hmiddle, hmoment⟩

/-- Two threads that both change the document before either of them saves. -/
theorem putAll_interleaved_bothChanged :
    let threads : List (List Update) := [[(["x"], integer 1)], [(["Y"], integer 2)]]
    let trace : List Step :=
      [.change (["x"], integer 1), .change (["Y"], integer 2), .save, .save]
    ∃ configuration opened store, (load yaml "cfg").runFrom hostSystem = (.ok configuration, opened) ∧
      Interleaves (threads.map stepsOf) trace ∧
      (Step.runAll yaml trace).runFrom ⟨opened, configuration⟩ = (.ok (), store) ∧
      IsSaved yaml store ∧ find store.configuration.document ["x"] = .ok (integer 1) ∧
      find store.configuration.document ["Y"] = .ok (integer 2) := by
  intro threads trace
  have htrace : Interleaves (threads.map stepsOf) trace :=
    .cons_left (.cons_right (.cons_left (.cons_right (.done (by simp)))))
  obtain ⟨opened, _, hload, hopened⟩ := exists_load_hostSystem
  obtain ⟨final, hfinal⟩ : ∃ final, (updateAll [(["x"], integer 1), (["Y"], integer 2)]
      hostDocument).toOption = some final :=
    Option.isSome_iff_exists.1 (by decide +kernel)
  rw [toOption_eq_some_iff] at hfinal
  have hwritable : ∀ front ∈ trace.inits,
      (yaml.write (run (front.filterMap Step.update?) hostDocument)).isSome := by
    decide +kernel
  obtain ⟨store, hrun, _⟩ : ∃ store,
      (Step.runAll yaml trace).runFrom ⟨opened, ⟨"cfg", hostDocument⟩⟩ = (.ok (), store) ∧
        store.configuration = ⟨"cfg", final⟩ :=
    exists_runAll hopened hfinal hwritable
  have hnone : (putAll yaml []).runFrom ⟨opened, ⟨"cfg", hostDocument⟩⟩ =
      (.ok (), ⟨opened, ⟨"cfg", hostDocument⟩⟩) := rfl
  obtain ⟨hfile, _, hfound, _⟩ := putAll_interleaved hload hnone htrace hrun
  refine ⟨_, opened, store, hload, htrace, hrun, hfile, ?_, ?_⟩
  · exact hfound ["x"] (integer 1) [(["Y"], integer 2)] (List.Perm.refl _) (by decide +kernel)
  · exact hfound ["Y"] (integer 2) [(["x"], integer 1)] (List.Perm.swap _ _ _) (by decide +kernel)

/-- Of two threads whose paths differ only in the case of a letter, so that neither path is the
beginning of the other one as it is written, the second one replaces the value of the first one. -/
theorem putAll_interleaved_otherCase :
    let threads : List (List Update) := [[(["A"], integer 1)], [(["a"], integer 2)]]
    ∃ configuration opened trace store,
      (load yaml "cfg").runFrom hostSystem = (.ok configuration, opened) ∧
      Interleaves (threads.map stepsOf) trace ∧
      (Step.runAll yaml trace).runFrom ⟨opened, configuration⟩ = (.ok (), store) ∧
      ¬ ["A"] <+: ["a"] ∧ ¬ ["a"] <+: ["A"] ∧
      find store.configuration.document ["A"] = .ok (integer 2) := by
  intro threads
  let trace := stepsOf [(["A"], integer 1), (["a"], integer 2)]
  have htrace : Interleaves (threads.map stepsOf) trace :=
    .cons_left (.cons_left (.cons_right (.cons_right (.done (by simp)))))
  obtain ⟨opened, _, hload, hopened⟩ := exists_load_hostSystem
  obtain ⟨final, hfinal⟩ : ∃ final, (updateAll [(["A"], integer 1), (["a"], integer 2)]
      hostDocument).toOption = some final :=
    Option.isSome_iff_exists.1 (by decide +kernel)
  rw [toOption_eq_some_iff] at hfinal
  have hwritable : ∀ front ∈ trace.inits,
      (yaml.write (run (front.filterMap Step.update?) hostDocument)).isSome := by
    decide +kernel
  obtain ⟨store, hrun, hstore⟩ : ∃ store,
      (Step.runAll yaml trace).runFrom ⟨opened, ⟨"cfg", hostDocument⟩⟩ = (.ok (), store) ∧
        store.configuration = ⟨"cfg", final⟩ :=
    exists_runAll hopened hfinal hwritable
  have hkey : keyOf "A" = keyOf "a" := by decide +kernel
  have hfound : find final ["A"] = .ok (integer 2) := by
    obtain ⟨_, _, hrest⟩ := updateAll_cons_eq_ok_iff.1 hfinal
    obtain ⟨_, hlast, hnil⟩ := updateAll_cons_eq_ok_iff.1 hrest
    cases hnil
    rw [find_cons_eq_ok_iff, hkey, ← find_cons_eq_ok_iff]
    exact find_of_update hlast
  refine ⟨_, opened, trace, store, hload, htrace, hrun, by decide, by decide, ?_⟩
  rw [hstore]
  exact hfound

end NatGateway.Configuration
