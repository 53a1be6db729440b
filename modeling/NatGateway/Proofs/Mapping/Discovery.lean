import Mathlib.Data.List.Induction
import Mathlib.Data.List.Nodup
import NatGateway.Mapping.Discovery

/-!
# What a discovery finds

A discovery may be told of its strategies in any order, and may be cancelled at any point. Whatever
happens, it is over after a few happenings, with the gateways of the strategies that search by type, in
the order in which these ended. The fallback only comes in where they have found nothing, and a strategy
that fails brings a report and no gateway.
-/

namespace NatGateway.Mapping

variable {happenings : List Happening} {happening : Happening} {strategy : Strategy}

/-! ## Histories -/

namespace Happening

/-- How a happening ends a strategy. -/
def ending? (strategy : Strategy) : Happening → Option Ending
  | .ended other ending => if other = strategy then some ending else none
  | _ => none

/-- What a happening brings of the strategies that search by type. -/
def arrival? : Happening → Option (List Collected)
  | .ended strategy ending =>
      if strategy.isFallback then none else (ending.result strategy).toOption
  | _ => none

/-- The failure that a happening is to be reported for. -/
def failure? : Happening → Option Report
  | .ended strategy ending =>
      match ending.result strategy with
      | .ok _ => none
      | .error error => if error.isCancelled then none else some (.failed strategy error)
  | _ => none

/-- Only the end of a strategy brings anything. -/
theorem brings_nothing (h : ∀ strategy ending, happening ≠ .ended strategy ending) :
    (∀ strategy, happening.ending? strategy = none) ∧ happening.arrival? = none ∧
      happening.failure? = none := by
  cases happening with
  | ended strategy ending => exact absurd rfl (h strategy ending)
  | received | closed | graceOver | cancelled => exact ⟨fun _ => rfl, rfl, rfl⟩

end Happening

/-- How a strategy has ended among happenings. -/
def endingOf? (strategy : Strategy) (happenings : List Happening) : Option Ending :=
  happenings.findSome? (·.ending? strategy)

/-- What the strategies that search by type have brought, in the order in which they ended. -/
def arrivals (happenings : List Happening) : List (List Collected) :=
  happenings.filterMap Happening.arrival?

/-- The failures that are to be reported, in their order. -/
def failures (happenings : List Happening) : List Report :=
  happenings.filterMap Happening.failure?

/-- What the fallback has brought. -/
def fallbackOf? (happenings : List Happening) : Option (List Collected) :=
  (endingOf? .everything happenings).bind fun ending => (ending.result .everything).toOption

/-- Whether all strategies that search by type have ended. -/
def AllArrived (happenings : List Happening) : Prop :=
  ∀ strategy : Strategy, strategy.isFallback = false → (endingOf? strategy happenings).isSome

/-- What a discovery may find. -/
inductive Finds (happenings : List Happening) : List Collected → Prop
  /-- The strategies that search by type have found something: all that they have found, in the order in
  which they ended. -/
  | gathered (hall : AllArrived happenings) (hsome : (arrivals happenings).flatten ≠ []) :
      Finds happenings (arrivals happenings).flatten
  /-- They have found nothing, but the fallback has. -/
  | fallback {gateways : List Collected} (hall : AllArrived happenings)
      (hnone : (arrivals happenings).flatten = []) (hfallback : fallbackOf? happenings = some gateways) :
      Finds happenings gateways
  /-- They have found nothing, and the fallback has failed or was too slow. -/
  | nothing (hall : AllArrived happenings) (hnone : (arrivals happenings).flatten = [])
      (hfallback : (∃ ending, endingOf? .everything happenings = some ending ∧
        fallbackOf? happenings = none) ∨ .graceOver ∈ happenings) : Finds happenings []
  /-- The token was cancelled: what was received until then. -/
  | cancelled {received : List (List Collected)} (hcancelled : .cancelled ∈ happenings)
      (hreceived : received <+: arrivals happenings) : Finds happenings received.flatten

/-! ### One more happening -/

/-- How a strategy has ended after one more happening. -/
theorem endingOf?_concat (strategy : Strategy) (happenings : List Happening) (happening : Happening) :
    endingOf? strategy (happenings ++ [happening]) =
      (endingOf? strategy happenings).or (happening.ending? strategy) := by
  rw [endingOf?, List.findSome?_append, List.findSome?_singleton, endingOf?]

/-- What has arrived after one more happening. -/
theorem arrivals_concat (happenings : List Happening) (happening : Happening) :
    arrivals (happenings ++ [happening]) = arrivals happenings ++ happening.arrival?.toList := by
  rw [arrivals, List.filterMap_append, List.filterMap_cons, arrivals]
  cases happening.arrival? <;> rfl

/-- What is to be reported after one more happening. -/
theorem failures_concat (happenings : List Happening) (happening : Happening) :
    failures (happenings ++ [happening]) = failures happenings ++ happening.failure?.toList := by
  rw [failures, List.filterMap_append, List.filterMap_cons, failures]
  cases happening.failure? <;> rfl

/-- A strategy that has ended stays so. -/
theorem endingOf?_concat_of_some {ending : Ending} (h : endingOf? strategy happenings = some ending)
    (happening : Happening) : endingOf? strategy (happenings ++ [happening]) = some ending := by
  rw [endingOf?_concat, h, Option.some_or]

/-- Strategies that have all ended stay so. -/
theorem AllArrived.concat (h : AllArrived happenings) (happening : Happening) :
    AllArrived (happenings ++ [happening]) := by
  intro strategy hstrategy
  obtain ⟨ending, hending⟩ := Option.isSome_iff_exists.1 (h strategy hstrategy)
  rw [endingOf?_concat_of_some hending]
  rfl

/-- After one more happening the fallback has brought what it had. -/
theorem fallbackOf?_concat_of_some {ending : Ending}
    (h : endingOf? .everything happenings = some ending) (happening : Happening) :
    fallbackOf? (happenings ++ [happening]) = fallbackOf? happenings := by
  rw [fallbackOf?, endingOf?_concat_of_some h, fallbackOf?, h]

/-- What the fallback has brought after a strategy has ended. -/
theorem fallbackOf?_concat_ended (h : endingOf? strategy happenings = none) (ending : Ending) :
    fallbackOf? (happenings ++ [.ended strategy ending]) =
      if strategy.isFallback then (ending.result strategy).toOption.or (fallbackOf? happenings)
      else fallbackOf? happenings := by
  rw [fallbackOf?, fallbackOf?, endingOf?_concat, Happening.ending?]
  cases strategy with
  | everything =>
    rw [h, Option.none_or, if_pos rfl, Option.bind_none, Option.or_none]
    rfl
  | device1 | device2 =>
    rw [if_neg (by decide), Option.or_none]
    rfl

/-- Whether a happening can follow others: no strategy ends twice. -/
def Follows (happenings : List Happening) (happening : Happening) : Prop :=
  ∀ strategy ending, happening = .ended strategy ending → endingOf? strategy happenings = none

/-- Once all strategies that search by type have ended nothing more arrives. -/
theorem AllArrived.arrivals_concat (h : AllArrived happenings) (hfollows : Follows happenings happening) :
    arrivals (happenings ++ [happening]) = arrivals happenings := by
  rw [Mapping.arrivals_concat]
  cases happening with
  | ended strategy ending =>
    cases hfallback : strategy.isFallback with
    | true => rw [Happening.arrival?, if_pos hfallback, Option.toList_none, List.append_nil]
    | false =>
      exact absurd (hfollows strategy ending rfl)
        (Option.isSome_iff_ne_none.1 (h strategy hfallback))
  | received | closed | graceOver | cancelled => exact List.append_nil _

/-- What was found stays found. -/
theorem Finds.concat {gateways : List Collected} (h : Finds happenings gateways)
    (hfollows : Follows happenings happening) : Finds (happenings ++ [happening]) gateways := by
  cases h with
  | gathered hall hsome =>
    rw [← hall.arrivals_concat hfollows] at hsome ⊢
    exact .gathered (hall.concat happening) hsome
  | fallback hall hnone hfallback =>
    obtain ⟨ending, hending, _⟩ := Option.bind_eq_some_iff.1 hfallback
    rw [← hall.arrivals_concat hfollows] at hnone
    rw [← fallbackOf?_concat_of_some hending happening] at hfallback
    exact .fallback (hall.concat happening) hnone hfallback
  | nothing hall hnone hfallback =>
    rw [← hall.arrivals_concat hfollows] at hnone
    refine .nothing (hall.concat happening) hnone (hfallback.imp ?_ (List.mem_append_left _))
    rintro ⟨ending, hending, hfailed⟩
    exact ⟨ending, endingOf?_concat_of_some hending happening,
      (fallbackOf?_concat_of_some hending happening).trans hfailed⟩
  | cancelled hcancelled hreceived =>
    refine .cancelled (List.mem_append_left _ hcancelled) (hreceived.trans ?_)
    rw [Mapping.arrivals_concat]
    exact List.prefix_append _ _

/-! ## Steps -/

namespace Discovery

variable {discovery next : Discovery}

/-- What a happening can do. -/
inductive Stepped (discovery : Discovery) : Happening → Discovery → Prop
  /-- A strategy ends, in any phase. -/
  | ended {strategy : Strategy} {ending : Ending} (hrunning : strategy ∈ discovery.running) :
      Stepped discovery (.ended strategy ending) (discovery.afterEnd strategy ending)
  /-- The result of a strategy that searches by type is received. -/
  | received {found : List Collected} {rest : List (List Collected)}
      (hphase : discovery.phase = .collecting) (hsent : discovery.sent = found :: rest) :
      Stepped discovery .received
        { discovery with sent := rest, gateways := discovery.gateways ++ found }
  /-- The result of the fallback is received. -/
  | fellBack {found : List Collected} (hphase : discovery.phase = .fallingBack)
      (hfallback : discovery.fallback = some found) :
      Stepped discovery .received
        { discovery with phase := .finished, fallback := none, gateways := discovery.gateways ++ found }
  /-- All results were received, and there were gateways in them. -/
  | gathered (hphase : discovery.phase = .collecting) (hsent : discovery.sent = [])
      (hrunning : ∀ strategy ∈ discovery.running, strategy.isFallback = true)
      (hgateways : discovery.gateways ≠ []) :
      Stepped discovery .closed { discovery with phase := .finished }
  /-- All results were received, and there was no gateway in them. -/
  | foundNothing (hphase : discovery.phase = .collecting) (hsent : discovery.sent = [])
      (hrunning : ∀ strategy ∈ discovery.running, strategy.isFallback = true)
      (hgateways : discovery.gateways = []) :
      Stepped discovery .closed { discovery with phase := .fallingBack }
  /-- The fallback has failed. -/
  | fallbackFailed (hphase : discovery.phase = .fallingBack) (hfallback : discovery.fallback = none)
      (hrunning : .everything ∉ discovery.running) :
      Stepped discovery .closed { discovery with phase := .finished }
  /-- The fallback was too slow. -/
  | graceOver (hphase : discovery.phase = .fallingBack) :
      Stepped discovery .graceOver { discovery with phase := .finished }
  /-- The token is cancelled. -/
  | cancelled (hphase : discovery.phase ≠ .finished) :
      Stepped discovery .cancelled { discovery with phase := .finished }

/-- The steps of a discovery are those. -/
theorem step_eq_some_iff (discovery : Discovery) (happening : Happening) (next : Discovery) :
    discovery.step happening = some next ↔ Stepped discovery happening next := by
  constructor
  · intro h
    cases happening with
    | ended strategy ending =>
      rw [step, Option.ite_none_right_eq_some] at h
      obtain ⟨hrunning, heq⟩ := h
      cases heq
      exact .ended hrunning
    | received =>
      rw [step] at h
      split at h
      · cases h
        exact .received ‹_› ‹_›
      · cases h
        exact .fellBack ‹_› ‹_›
      · cases h
    | closed =>
      rw [step] at h
      split at h
      · rename_i hphase
        rw [Option.ite_none_right_eq_some, Bool.and_eq_true, List.isEmpty_iff, List.all_eq_true] at h
        obtain ⟨⟨hsent, hrunning⟩, heq⟩ := h
        by_cases hgateways : discovery.gateways = []
        · rw [if_pos (List.isEmpty_iff.2 hgateways)] at heq
          cases heq
          exact .foundNothing hphase hsent hrunning hgateways
        · rw [if_neg (mt List.isEmpty_iff.1 hgateways)] at heq
          cases heq
          exact .gathered hphase hsent hrunning hgateways
      · rename_i hphase
        rw [Option.ite_none_right_eq_some, Bool.and_eq_true, Option.isNone_iff_eq_none] at h
        obtain ⟨⟨hfallback, hgone⟩, heq⟩ := h
        cases heq
        exact .fallbackFailed hphase hfallback (by simpa using hgone)
      · cases h
    | graceOver =>
      rw [step, Option.ite_none_right_eq_some] at h
      obtain ⟨hphase, heq⟩ := h
      cases heq
      exact .graceOver hphase
    | cancelled =>
      rw [step, Option.ite_none_left_eq_some] at h
      obtain ⟨hphase, heq⟩ := h
      cases heq
      exact .cancelled hphase
  · intro h
    cases h with
    | ended hrunning => rw [step, if_pos hrunning]
    | received hphase hsent => rw [step, hphase, hsent]
    | fellBack hphase hfallback => rw [step, hphase, hfallback]
    | gathered hphase hsent hrunning hgateways =>
      simp [step, hphase, hsent, hgateways, List.all_eq_true.2 hrunning]
    | foundNothing hphase hsent hrunning hgateways =>
      simp [step, hphase, hsent, hgateways, List.all_eq_true.2 hrunning]
    | fallbackFailed hphase hfallback hrunning =>
      simp [step, hphase, hfallback, hrunning]
    | graceOver hphase => rw [step, if_pos hphase]
    | cancelled hphase => rw [step, if_neg hphase]

/-! ### The end of a strategy -/

/-- Of the strategies one ends. -/
@[simp] theorem afterEnd_running (discovery : Discovery) (strategy : Strategy) (ending : Ending) :
    (discovery.afterEnd strategy ending).running = discovery.running.erase strategy := by
  grind [afterEnd]

/-- What a discovery waits for does not change when a strategy ends. -/
@[simp] theorem afterEnd_phase (discovery : Discovery) (strategy : Strategy) (ending : Ending) :
    (discovery.afterEnd strategy ending).phase = discovery.phase := by
  grind [afterEnd]

/-- No gateway is received when a strategy ends. -/
@[simp] theorem afterEnd_gateways (discovery : Discovery) (strategy : Strategy) (ending : Ending) :
    (discovery.afterEnd strategy ending).gateways = discovery.gateways := by
  grind [afterEnd]

/-- What has arrived is sent. -/
theorem afterEnd_sent (discovery : Discovery) (strategy : Strategy) (ending : Ending) :
    (discovery.afterEnd strategy ending).sent =
      discovery.sent ++ (Happening.ended strategy ending).arrival?.toList := by
  rw [afterEnd, Happening.arrival?]
  cases hresult : ending.result strategy with
  | ok gateways => grind [Except.toOption]
  | error error => grind [Except.toOption]

/-- A failure is reported. -/
theorem afterEnd_reports (discovery : Discovery) (strategy : Strategy) (ending : Ending) :
    (discovery.afterEnd strategy ending).reports =
      discovery.reports ++ (Happening.ended strategy ending).failure?.toList := by
  rw [afterEnd, Happening.failure?]
  cases hresult : ending.result strategy with
  | ok gateways => grind
  | error error => grind

/-- The fallback keeps its result, and the other strategies leave that as it is. -/
theorem afterEnd_fallback (discovery : Discovery) (strategy : Strategy) (ending : Ending) :
    (discovery.afterEnd strategy ending).fallback =
      if strategy.isFallback then (ending.result strategy).toOption.or discovery.fallback
      else discovery.fallback := by
  rw [afterEnd]
  cases hresult : ending.result strategy with
  | ok gateways => grind [Except.toOption]
  | error error => grind [Except.toOption]

/-! ## Runs -/

/-- Where a discovery stands after happenings. While it collects, what was received and what is still to
be received make up what has arrived. -/
structure Stands (happenings : List Happening) (discovery : Discovery) : Prop where
  running : ∀ strategy, strategy ∈ discovery.running ↔ endingOf? strategy happenings = none
  nodup : discovery.running.Nodup
  reports : discovery.reports = failures happenings
  fallback : discovery.phase ≠ .finished → discovery.fallback = fallbackOf? happenings
  collecting : discovery.phase = .collecting → ∃ received,
    arrivals happenings = received ++ discovery.sent ∧ discovery.gateways = received.flatten
  fallingBack : discovery.phase = .fallingBack →
    AllArrived happenings ∧ (arrivals happenings).flatten = [] ∧ discovery.gateways = []
  finished : discovery.phase = .finished → Finds happenings discovery.gateways

/-- Where a discovery begins. -/
theorem stands_start : Stands [] start where
  running strategy := by cases strategy <;> decide
  nodup := by decide
  reports := rfl
  fallback _ := rfl
  collecting _ := ⟨[], rfl, rfl⟩
  fallingBack := nofun
  finished := nofun

namespace Stands

/-- A strategy that is running may end. -/
theorem follows (h : Stands happenings discovery) (hrunning : strategy ∈ discovery.running)
    (ending : Ending) : Follows happenings (.ended strategy ending) := by
  intro other otherEnding heq
  cases heq
  exact (h.running strategy).1 hrunning

/-- When a strategy ends a discovery goes on where it stands. -/
theorem afterEnd (h : Stands happenings discovery) (hrunning : strategy ∈ discovery.running)
    (ending : Ending) :
    Stands (happenings ++ [.ended strategy ending]) (discovery.afterEnd strategy ending) := by
  have hfollows := h.follows hrunning ending
  have hnone := (h.running strategy).1 hrunning
  refine ⟨fun other => ?_, ?_, ?_, fun hphase => ?_, fun hphase => ?_, fun hphase => ?_,
    fun hphase => ?_⟩
  · rw [afterEnd_running, h.nodup.mem_erase_iff, endingOf?_concat, h.running, Option.or_eq_none_iff,
      Happening.ending?]
    grind
  · rw [afterEnd_running]
    exact h.nodup.erase strategy
  · rw [afterEnd_reports, failures_concat, h.reports]
  · rw [afterEnd_phase] at hphase
    rw [afterEnd_fallback, h.fallback hphase, fallbackOf?_concat_ended hnone]
  · rw [afterEnd_phase] at hphase
    obtain ⟨received, harrivals, hgateways⟩ := h.collecting hphase
    refine ⟨received, ?_, by rw [afterEnd_gateways, hgateways]⟩
    rw [arrivals_concat, harrivals, afterEnd_sent, List.append_assoc]
  · rw [afterEnd_phase] at hphase
    obtain ⟨hall, hempty, hgateways⟩ := h.fallingBack hphase
    exact ⟨hall.concat _, by rw [hall.arrivals_concat hfollows, hempty],
      by rw [afterEnd_gateways, hgateways]⟩
  · rw [afterEnd_phase] at hphase
    rw [afterEnd_gateways]
    exact (h.finished hphase).concat hfollows

/-- Any other happening leaves what the strategies have come to as it is. -/
theorem concat (h : Stands happenings discovery) (happening : Happening)
    (hother : ∀ strategy ending, happening ≠ .ended strategy ending) :
    Stands (happenings ++ [happening]) discovery := by
  have hfollows : Follows happenings happening := fun strategy ending heq =>
    absurd heq (hother strategy ending)
  obtain ⟨hending, harrival, hfailure⟩ := Happening.brings_nothing hother
  refine ⟨fun strategy => ?_, h.nodup, ?_, fun hphase => ?_, fun hphase => ?_, fun hphase => ?_,
    fun hphase => (h.finished hphase).concat hfollows⟩
  · rw [endingOf?_concat, hending, Option.or_none, h.running]
  · rw [failures_concat, hfailure, Option.toList_none, List.append_nil, h.reports]
  · rw [h.fallback hphase, fallbackOf?, fallbackOf?, endingOf?_concat, hending, Option.or_none]
  · rw [arrivals_concat, harrival, Option.toList_none, List.append_nil]
    exact h.collecting hphase
  · rw [arrivals_concat, harrival, Option.toList_none, List.append_nil]
    exact ⟨(h.fallingBack hphase).1.concat happening, (h.fallingBack hphase).2⟩

/-- Where only the fallback is still running all other strategies have ended. -/
theorem allArrived (h : Stands happenings discovery)
    (hrunning : ∀ strategy ∈ discovery.running, strategy.isFallback = true) :
    AllArrived happenings := by
  intro strategy hstrategy
  rw [Option.isSome_iff_ne_none]
  intro hnone
  have hfallback := hrunning strategy ((h.running strategy).2 hnone)
  exact Bool.false_ne_true (hstrategy.symm.trans hfallback)

/-- Where all results were received the gateways are those that have arrived. -/
theorem gateways_eq (h : Stands happenings discovery) (hphase : discovery.phase = .collecting)
    (hsent : discovery.sent = []) : discovery.gateways = (arrivals happenings).flatten := by
  obtain ⟨received, harrivals, hgateways⟩ := h.collecting hphase
  rw [harrivals, hsent, List.append_nil, hgateways]

/-- Until a discovery is over its gateways are those that were received of what has arrived. -/
theorem received_of_not_finished (h : Stands happenings discovery)
    (hphase : discovery.phase ≠ .finished) :
    ∃ received, received <+: arrivals happenings ∧ discovery.gateways = received.flatten := by
  cases heq : discovery.phase with
  | collecting =>
    obtain ⟨received, harrivals, hgateways⟩ := h.collecting heq
    exact ⟨received, ⟨_, harrivals.symm⟩, hgateways⟩
  | fallingBack => exact ⟨[], List.nil_prefix, (h.fallingBack heq).2.2⟩
  | finished => exact absurd heq hphase

/-- A discovery may be over with what can be found. -/
theorem finish (h : Stands happenings discovery) {fallback : Option (List Collected)}
    {gateways : List Collected} (hfinds : Finds happenings gateways) :
    Stands happenings
      { discovery with phase := .finished, fallback := fallback, gateways := gateways } where
  running := h.running
  nodup := h.nodup
  reports := h.reports
  fallback hphase := absurd rfl hphase
  collecting := nofun
  fallingBack := nofun
  finished _ := hfinds

/-- While a discovery waits for the fallback it has what that has brought. -/
theorem fallbackOf?_eq (h : Stands happenings discovery) (hphase : discovery.phase = .fallingBack) :
    fallbackOf? happenings = discovery.fallback := by
  refine (h.fallback ?_).symm
  rw [hphase]
  decide

/-- A discovery that waits for the fallback in vain has found nothing. -/
theorem finish_nothing (h : Stands happenings discovery) (hphase : discovery.phase = .fallingBack)
    (hvain : (∃ ending, endingOf? .everything happenings = some ending ∧
      fallbackOf? happenings = none) ∨ .graceOver ∈ happenings) :
    Stands happenings { discovery with phase := .finished } := by
  obtain ⟨hall, hempty, hgateways⟩ := h.fallingBack hphase
  refine h.finish ?_
  rw [hgateways]
  exact .nothing hall hempty hvain

/-- Whatever happens, a discovery goes on where it stands. -/
theorem step (h : Stands happenings discovery) (hstep : Stepped discovery happening next) :
    Stands (happenings ++ [happening]) next := by
  cases hstep with
  | ended hrunning => exact h.afterEnd hrunning _
  | @received found rest hphase hsent =>
    have h := h.concat .received fun _ _ heq => by cases heq
    refine { h with collecting := fun _ => ?_, fallingBack := ?_, finished := ?_ }
    · obtain ⟨received, harrivals, hgateways⟩ := h.collecting hphase
      refine ⟨received ++ [found], ?_, ?_⟩
      · rw [harrivals, hsent, List.append_assoc, List.singleton_append]
      · rw [hgateways, List.flatten_append, List.flatten_singleton]
    · rw [hphase]
      nofun
    · rw [hphase]
      nofun
  | @fellBack found hphase hfallback =>
    have h := h.concat .received fun _ _ heq => by cases heq
    obtain ⟨hall, hempty, hgateways⟩ := h.fallingBack hphase
    refine h.finish ?_
    rw [hgateways, List.nil_append]
    exact .fallback hall hempty ((h.fallbackOf?_eq hphase).trans hfallback)
  | gathered hphase hsent hrunning hgateways =>
    have h := h.concat .closed fun _ _ heq => by cases heq
    have heq := h.gateways_eq hphase hsent
    refine h.finish ?_
    rw [heq] at hgateways ⊢
    exact .gathered (h.allArrived hrunning) hgateways
  | foundNothing hphase hsent hrunning hgateways =>
    have h := h.concat .closed fun _ _ heq => by cases heq
    refine { h with
      fallback := fun _ => h.fallback (by rw [hphase]; decide), collecting := nofun,
      fallingBack := fun _ => ⟨h.allArrived hrunning, ?_, hgateways⟩, finished := nofun }
    rw [← h.gateways_eq hphase hsent, hgateways]
  | fallbackFailed hphase hfallback hrunning =>
    have h := h.concat .closed fun _ _ heq => by cases heq
    obtain ⟨ending, hending⟩ :=
      Option.ne_none_iff_exists'.1 (mt (h.running .everything).2 hrunning)
    exact h.finish_nothing hphase
      (Or.inl ⟨ending, hending, (h.fallbackOf?_eq hphase).trans hfallback⟩)
  | graceOver hphase =>
    have h := h.concat .graceOver fun _ _ heq => by cases heq
    exact h.finish_nothing hphase (Or.inr (List.mem_append_right _ List.mem_cons_self))
  | cancelled hphase =>
    have h := h.concat .cancelled fun _ _ heq => by cases heq
    refine h.finish ?_
    obtain ⟨received, hreceived, hgateways⟩ := h.received_of_not_finished hphase
    rw [hgateways]
    exact .cancelled (List.mem_append_right _ List.mem_cons_self) hreceived

end Stands

/-- A run goes on with one more happening. -/
theorem run_concat (discovery : Discovery) (happenings : List Happening) (happening : Happening) :
    discovery.run (happenings ++ [happening]) =
      (discovery.run happenings).bind fun reached => reached.step happening := by
  rw [run, List.foldlM_append, run]
  congr 1
  funext reached
  exact List.foldlM_cons.trans (bind_pure _)

/-- Whatever has happened, a discovery stands where the happenings lead. -/
theorem stands_of_run (h : start.run happenings = some discovery) : Stands happenings discovery := by
  -- The induction is on the number of happenings, the last of which is one step.
  induction happenings using List.reverseRecOn generalizing discovery with
  | nil =>
    cases h
    exact stands_start
  | append_singleton happenings happening ih =>
    rw [run_concat, Option.bind_eq_some_iff] at h
    obtain ⟨before, hrun, hstep⟩ := h
    exact (ih hrun).step ((step_eq_some_iff before happening discovery).1 hstep)

/-- What a discovery finds, whatever has happened to it: the gateways of the strategies that search by
type, those of the fallback if these have found nothing, or what was received until it was cancelled. -/
theorem finds_of_run (h : start.run happenings = some discovery)
    (hfinished : discovery.phase = .finished) : Finds happenings discovery.gateways :=
  (stands_of_run h).finished hfinished

/-- A discovery reports each failure of a strategy but a cancellation, once and in the order of the
failures. -/
theorem reports_of_run (h : start.run happenings = some discovery) :
    discovery.reports = failures happenings :=
  (stands_of_run h).reports

/-- A strategy that panics is reported as an error, with its name and the reason. -/
theorem panic_reported (h : start.run happenings = some discovery) {reason : String}
    (hpanicked : .ended strategy (.panicked reason) ∈ happenings) :
    ∃ report ∈ discovery.reports, report.severity = .error ∧
      report.text? = some ("async discover " ++ strategy.name ++ " error " ++
        ("discovery task " ++ strategy.name ++ " failed: " ++ reason)) := by
  refine ⟨.failed strategy (.taskFailed strategy.name reason), ?_, rfl, rfl⟩
  rw [reports_of_run h]
  exact List.mem_filterMap.2 ⟨_, hpanicked, rfl⟩

/-- A discovery that is not cancelled does not lose what its strategies have found. -/
theorem gateways_of_run (h : start.run happenings = some discovery)
    (hfinished : discovery.phase = .finished) (hcancelled : .cancelled ∉ happenings)
    (hsome : (arrivals happenings).flatten ≠ []) :
    discovery.gateways = (arrivals happenings).flatten := by
  generalize hgateways : discovery.gateways = gateways
  cases hgateways ▸ finds_of_run h hfinished with
  | gathered => rfl
  | fallback _ hnone _ => exact absurd hnone hsome
  | nothing _ hnone _ => exact absurd hnone hsome
  | cancelled hmem _ => exact absurd hmem hcancelled

/-! ## The end of a run -/

/-- The phases that may still come. -/
def phasesAhead : Phase → Nat
  | .collecting => 2
  | .fallingBack => 1
  | .finished => 0

/-- A bound on what can still happen to a discovery. A strategy that ends may leave a result to be
received, so it counts twice. -/
def ahead (discovery : Discovery) : Nat :=
  2 * discovery.running.length + discovery.sent.length + phasesAhead discovery.phase

/-- A happening brings at most one result. -/
theorem length_arrival_le (happening : Happening) : happening.arrival?.toList.length ≤ 1 := by
  cases happening.arrival? <;> simp

/-- With every happening there is less that can still happen. -/
theorem ahead_lt_of_stepped (h : Stepped discovery happening next) : next.ahead < discovery.ahead := by
  cases h with
  | @ended strategy ending hrunning =>
    have hlength := List.length_erase_of_mem hrunning
    have hpos := List.length_pos_of_mem hrunning
    have harrival := length_arrival_le (.ended strategy ending)
    rw [ahead, ahead, afterEnd_running, afterEnd_phase, afterEnd_sent, List.length_append]
    omega
  | received hphase hsent =>
    simp only [ahead, hsent, List.length_cons]
    omega
  | fellBack hphase _ | gathered hphase _ _ _ | foundNothing hphase _ _ _
  | fallbackFailed hphase _ _ | graceOver hphase =>
    simp only [ahead, hphase, phasesAhead]
    omega
  | cancelled hphase =>
    cases heq : discovery.phase with
    | collecting | fallingBack =>
      simp only [ahead, heq, phasesAhead]
      omega
    | finished => exact absurd heq hphase

/-- Only so much can happen to a discovery. -/
theorem length_add_ahead_le_of_run {reached : Discovery}
    (h : discovery.run happenings = some reached) :
    happenings.length + reached.ahead ≤ discovery.ahead := by
  induction happenings using List.reverseRecOn generalizing reached with
  | nil =>
    cases h
    exact Nat.le_of_eq (Nat.zero_add _)
  | append_singleton happenings happening ih =>
    rw [run_concat, Option.bind_eq_some_iff] at h
    obtain ⟨before, hrun, hstep⟩ := h
    have hbefore := ih hrun
    have hlt := ahead_lt_of_stepped ((step_eq_some_iff before happening reached).1 hstep)
    rw [List.length_append, List.length_singleton]
    omega

/-- A discovery takes eight happenings at most. -/
theorem length_le_of_run (h : start.run happenings = some discovery) : happenings.length ≤ 8 :=
  Nat.le_trans (Nat.le_add_right _ _) (length_add_ahead_le_of_run h)

/-- What a discovery waits for: in the beginning the strategies that search by type, then the fallback. -/
def Awaits (discovery : Discovery) (strategy : Strategy) : Prop :=
  strategy ∈ discovery.running ∧
    (discovery.phase = .collecting ∧ strategy.isFallback = false ∨
      discovery.phase = .fallingBack ∧ strategy.isFallback = true)

/-- A discovery that is not over goes on once what it waits for has ended, with no need of a cancellation
or of time that passes. -/
theorem exists_step (hfinished : discovery.phase ≠ .finished)
    (hawaits : ∀ strategy, ¬ discovery.Awaits strategy) :
    ∃ next, discovery.step .received = some next ∨ discovery.step .closed = some next := by
  simp only [step_eq_some_iff]
  cases hphase : discovery.phase with
  | collecting =>
    cases hsent : discovery.sent with
    | cons found rest => exact ⟨_, Or.inl (.received hphase hsent)⟩
    | nil =>
      have hrunning : ∀ strategy ∈ discovery.running, strategy.isFallback = true := by
        intro strategy hmem
        by_contra hfallback
        exact hawaits strategy ⟨hmem, Or.inl ⟨hphase, Bool.eq_false_iff.2 hfallback⟩⟩
      by_cases hgateways : discovery.gateways = []
      · exact ⟨_, Or.inr (.foundNothing hphase hsent hrunning hgateways)⟩
      · exact ⟨_, Or.inr (.gathered hphase hsent hrunning hgateways)⟩
  | fallingBack =>
    cases hfallback : discovery.fallback with
    | some found => exact ⟨_, Or.inl (.fellBack hphase hfallback)⟩
    | none =>
      exact ⟨_, Or.inr (.fallbackFailed hphase hfallback fun hmem =>
        hawaits .everything ⟨hmem, Or.inr ⟨hphase, rfl⟩⟩)⟩
  | finished => exact absurd hphase hfinished

/-- What a discovery has found does not change once it is over. -/
theorem gateways_eq_of_finished (h : Stepped discovery happening next)
    (hfinished : discovery.phase = .finished) :
    next.phase = .finished ∧ next.gateways = discovery.gateways := by
  cases h with
  | ended hrunning => exact ⟨(afterEnd_phase _ _ _).trans hfinished, afterEnd_gateways _ _ _⟩
  | received hphase _ | fellBack hphase _ | gathered hphase _ _ _ | foundNothing hphase _ _ _
  | fallbackFailed hphase _ _ | graceOver hphase => rw [hphase] at hfinished; cases hfinished
  | cancelled hphase => exact absurd hfinished hphase

end Discovery

end NatGateway.Mapping
