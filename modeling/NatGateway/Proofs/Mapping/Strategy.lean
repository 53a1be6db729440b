import NatGateway.Mapping.Discovery
import NatGateway.Proofs.Description.Failures
import NatGateway.Proofs.Ssdp.Delivery

/-!
# What a strategy finds

A strategy visits the locations that its search has found, in their order, and brings the gateways of all
descriptions that could be read; those that could not are reported, and only a cancellation ends it early.
The fallback reports all services that it comes to, passes over those of an internet gateway, and visits
each other location once.

What a look brings is open. Where a look fetches and reads a description it is cancelled exactly if its
token is, so that a strategy loses nothing to descriptions that cannot be had or read.
-/

namespace NatGateway.Mapping

open NatGateway.Ssdp (FoundService SsdpError isInternetGateway)

/-! ## Looks -/

/-- Locations that were looked at, with what each look brought. -/
abbrev Looked := List (Url × Except MappingError Collection)

/-- Whether what a look brought is a cancellation. -/
def IsCancellation : Except MappingError Collection → Prop
  | .ok _ => False
  | .error error => error.isCancelled = true

/-- The gateways that a look brought. -/
def brought : Except MappingError Collection → List Collected
  | .ok found => found.gateways
  | .error _ => []

/-- The report about a look at a location: only a description that cannot be read is reported. -/
def skipped (location : Url) : Except MappingError Collection → List Report
  | .ok _ => []
  | .error error => if error.isCancelled then [] else [.skipped location error]

/-- Progress after some looks. -/
def Progress.after (progress : Progress) (looked : Looked) : Progress where
  gateways := progress.gateways ++ looked.flatMap fun entry => brought entry.2
  reports := progress.reports ++ looked.flatMap fun entry => skipped entry.1 entry.2

variable {σ : Type} {look : Looking σ}

/-- Looks at locations one after another, each from the state that the one before it has left. -/
inductive Looks (look : Looking σ) : σ → Looked → σ → Prop
  | nil (state : σ) : Looks look state [] state
  | cons {state next last : σ} {location : Url} {found : Except MappingError Collection}
      {looked : Looked} (first : (look location).run state = (found, next))
      (rest : Looks look next looked last) : Looks look state ((location, found) :: looked) last

/-- How a visit of locations ended: all of them were looked at, or a look was cancelled and no further one
was made. -/
inductive EndedAfter : Looked → List Url → Except MappingError Unit → Prop
  | done {looked : Looked} (h : ∀ entry ∈ looked, ¬ IsCancellation entry.2) :
      EndedAfter looked (looked.map Prod.fst) (.ok ())
  | cancelled {looked : Looked} {location : Url} {error : MappingError} {rest : List Url}
      (h : ∀ entry ∈ looked, ¬ IsCancellation entry.2) (hcancelled : error.isCancelled = true) :
      EndedAfter (looked ++ [(location, .error error)]) (looked.map Prod.fst ++ location :: rest)
        (.error error)

/-- Another location is visited before those that were. -/
theorem EndedAfter.cons {looked : Looked} {locations : List Url} {ended : Except MappingError Unit}
    (h : EndedAfter looked locations ended) {location : Url} {found : Except MappingError Collection}
    (hfound : ¬ IsCancellation found) :
    EndedAfter ((location, found) :: looked) (location :: locations) ended := by
  cases h with
  | done h => exact .done (List.forall_mem_cons.2 ⟨hfound, h⟩)
  | cancelled h hcancelled =>
    exact @EndedAfter.cancelled ((location, found) :: _) _ _ _ (List.forall_mem_cons.2 ⟨hfound, h⟩)
      hcancelled

/-- Without any look there was nowhere to look. -/
theorem EndedAfter.locations_eq_nil {locations : List Url} {ended : Except MappingError Unit}
    (h : EndedAfter [] locations ended) : locations = [] := by
  generalize hlooked : ([] : Looked) = looked at h
  cases h with
  | done _ => rw [← hlooked, List.map_nil]
  | cancelled _ _ => exact absurd hlooked.symm (List.concat_ne_nil _ _)

/-- A cancellation at the first look is the end. -/
theorem EndedAfter.cancelled_first {location : Url} {error : MappingError} {looked : Looked}
    {locations : List Url} {ended : Except MappingError Unit}
    (h : EndedAfter ((location, .error error) :: looked) locations ended)
    (hcancelled : error.isCancelled = true) : looked = [] ∧ ended = .error error := by
  generalize hlooked : (location, .error error) :: looked = entries at h
  cases h with
  | done h =>
    subst hlooked
    exact absurd hcancelled (h _ List.mem_cons_self)
  | @cancelled before _ _ _ h _ =>
    cases before with
    | nil =>
      cases hlooked
      exact ⟨rfl, rfl⟩
    | cons entry before =>
      cases hlooked
      exact absurd hcancelled (h _ List.mem_cons_self)

/-- Without looks there is no progress. -/
theorem Progress.after_nil (progress : Progress) : progress.after [] = progress := by
  simp only [after, List.flatMap_nil, List.append_nil]

/-- Looks make progress one after another. -/
theorem Progress.after_cons (progress : Progress) (entry : Url × Except MappingError Collection)
    (looked : Looked) : (progress.after [entry]).after looked = progress.after (entry :: looked) := by
  simp only [after, List.flatMap_cons, List.flatMap_nil, List.append_nil, List.append_assoc]

/-- A cancelled look makes no progress. -/
theorem Progress.after_cancelled (progress : Progress) (location : Url) {error : MappingError}
    (h : error.isCancelled = true) : progress.after [(location, .error error)] = progress := by
  simp only [after, List.flatMap_cons, List.flatMap_nil, brought, skipped, if_pos h, List.append_nil]

/-- What a visit of a location does: it makes progress, or it is cancelled and makes none. -/
theorem visit_run {location : Url} {state next : σ} {found : Except MappingError Collection}
    (h : (look location).run state = (found, next)) (progress : Progress) :
    ¬ IsCancellation found ∧ (visit look location progress).run state =
        ((.ok (), progress.after [(location, found)]), next) ∨
      ∃ error, found = .error error ∧ error.isCancelled = true ∧
        (visit look location progress).run state = ((.error error, progress), next) := by
  rw [visit, StateT.run_bind, h]
  cases found with
  | ok found =>
    refine Or.inl ⟨id, ?_⟩
    simp only [Progress.after, List.flatMap_cons, List.flatMap_nil, brought, skipped, List.append_nil]
    rfl
  | error error =>
    change _ ∧ StateT.run (if error.isCancelled = true then _ else _) next = _ ∨
      ∃ _, _ ∧ _ ∧ StateT.run (if error.isCancelled = true then _ else _) next = _
    by_cases hcancelled : error.isCancelled = true
    · rw [if_pos hcancelled]
      exact Or.inr ⟨error, rfl, hcancelled, rfl⟩
    · rw [if_neg hcancelled]
      refine Or.inl ⟨hcancelled, ?_⟩
      simp only [Progress.after, List.flatMap_cons, List.flatMap_nil, brought, skipped,
        if_neg hcancelled, List.append_nil]
      rfl

/-! ## Visits -/

/-- A visit of services begins with the first of them. -/
theorem visitEach_cons_run (look : Looking σ) (service : FoundService) (rest : List FoundService)
    (progress : Progress) (state : σ) :
    (visitEach look (service :: rest) progress).run state =
      match (visit look service.location progress).run state with
      | ((.ok (), reached), last) => (visitEach look rest reached).run last
      | ((.error error, reached), last) => ((.error error, reached), last) := by
  rw [visitEach, StateT.run_bind]
  generalize (visit look service.location progress).run state = outcome
  obtain ⟨⟨_ | _, _⟩, _⟩ := outcome <;> rfl

/-- A visit of services looks at their locations in order, and makes progress with every look. -/
theorem visitEach_run (look : Looking σ) (services : List FoundService) (progress : Progress)
    (state : σ) :
    ∃ looked ended last, Looks look state looked last ∧
      EndedAfter looked (services.map (·.location)) ended ∧
      (visitEach look services progress).run state = ((ended, progress.after looked), last) := by
  induction services generalizing progress state with
  | nil =>
    refine ⟨[], .ok (), state, .nil state, @EndedAfter.done [] (List.forall_mem_nil _), ?_⟩
    rw [Progress.after_nil]
    rfl
  | cons service rest ih =>
    obtain ⟨found, next, hlook⟩ : ∃ found next, (look service.location).run state = (found, next) :=
      ⟨_, _, rfl⟩
    rw [visitEach_cons_run]
    rcases visit_run hlook progress with ⟨hgoes, hrun⟩ | ⟨error, rfl, hcancelled, hrun⟩
    · obtain ⟨looked, ended, last, hlooks, hended, hrest⟩ :=
        ih (progress.after [(service.location, found)]) next
      rw [Progress.after_cons] at hrest
      rw [hrun]
      exact ⟨_, ended, last, .cons hlook hlooks, hended.cons hgoes, hrest⟩
    · refine ⟨_, .error error, next, .cons hlook (.nil next),
        @EndedAfter.cancelled [] _ _ _ (List.forall_mem_nil _) hcancelled, ?_⟩
      rw [hrun, Progress.after_cancelled progress service.location hcancelled]

/-! ## The fallback -/

/-- Whether two services were found at one place. -/
def atSamePlace (service other : FoundService) : Bool :=
  service.location.text == other.location.text

/-- The services whose locations the fallback visits, where some places have been visited before: of
those that are not an internet gateway the first one at each further place. -/
def others (seen : List String) (services : List FoundService) : List FoundService :=
  (services.filter fun service =>
    !isInternetGateway service.searchType && !seen.contains service.location.text).eraseDupsBy
      atSamePlace

/-- What visits report: the services that they come to, of those that are to be reported, and among them
the descriptions that could not be read. -/
structure AreReports (services : List FoundService) (looked : Looked)
    (ended : Except MappingError Unit) (reports : List Report) : Prop where
  skipped : reports.filter (·.severity ≠ .information) = looked.flatMap fun entry =>
    Mapping.skipped entry.1 entry.2
  seen : reports.filter (·.severity = .information) <+: services.map .seen
  all : ended = .ok () → reports.filter (·.severity = .information) = services.map .seen

/-- No look brings information. -/
theorem severity_of_mem_skipped {location : Url} {found : Except MappingError Collection}
    {report : Report} (h : report ∈ skipped location found) : report.severity ≠ .information := by
  cases found with
  | ok found => cases h
  | error error =>
    rw [skipped] at h
    split at h
    · cases h
    · rw [List.mem_singleton.1 h, Report.severity]
      decide

namespace AreReports

variable {services : List FoundService} {entries : Looked} {ended : Except MappingError Unit}
  {reports : List Report}

/-- Where nothing was found there is nothing to report. -/
theorem nil (ended : Except MappingError Unit) : AreReports [] [] ended [] :=
  ⟨rfl, List.prefix_refl _, fun _ => rfl⟩

/-- A service is reported before those behind it. -/
theorem cons (h : AreReports services entries ended reports) (service : FoundService) :
    AreReports (service :: services) entries ended (.seen service :: reports) where
  skipped := h.skipped
  seen := List.cons_prefix_cons.2 ⟨rfl, h.seen⟩
  all hended := congrArg (Report.seen service :: ·) (h.all hended)

/-- What a look reports stands before the reports of further ones. -/
theorem looked (h : AreReports services entries ended reports) (location : Url)
    (found : Except MappingError Collection) :
    AreReports services ((location, found) :: entries) ended
      (Mapping.skipped location found ++ reports) := by
  have hnone : (Mapping.skipped location found).filter (·.severity = .information) = [] :=
    List.filter_eq_nil_iff.2 fun report hreport => by
      simpa using severity_of_mem_skipped hreport
  have hall : (Mapping.skipped location found).filter (·.severity ≠ .information) =
      Mapping.skipped location found :=
    List.filter_eq_self.2 fun report hreport => by
      simpa using severity_of_mem_skipped hreport
  refine ⟨?_, ?_, fun hended => ?_⟩
  · rw [List.filter_append, hall, h.skipped, List.flatMap_cons]
  · rw [List.filter_append, hnone, List.nil_append]
    exact h.seen
  · rw [List.filter_append, hnone, List.nil_append, h.all hended]

/-- Where no service is to be reported the looks alone are. -/
theorem of_looked (entries : Looked) (ended : Except MappingError Unit) :
    AreReports [] entries ended (entries.flatMap fun entry => Mapping.skipped entry.1 entry.2) := by
  induction entries with
  | nil => exact .nil ended
  | cons entry rest ih => exact ih.looked entry.1 entry.2

/-- A cancelled look is the last one, and reports nothing. -/
theorem cancelled (service : FoundService) (rest : List FoundService) {error : MappingError}
    (h : error.isCancelled = true) :
    AreReports (service :: rest) [(service.location, .error error)] (.error error)
      [.seen service] := by
  refine ⟨?_, List.cons_prefix_cons.2 ⟨rfl, List.nil_prefix⟩, nofun⟩
  rw [List.flatMap_singleton, Mapping.skipped, if_pos h]
  rfl

end AreReports

/-- A service that is passed over is not visited. -/
theorem others_cons_of_passed {seen : List String} {service : FoundService}
    (h : (isInternetGateway service.searchType || seen.contains service.location.text) = true)
    (rest : List FoundService) : others seen (service :: rest) = others seen rest := by
  rw [others, List.filter_cons_of_neg (by rw [← Bool.not_or, h]; exact Bool.false_ne_true), others]

/-- After a service that is visited no other one at its place is. -/
theorem others_cons_of_fresh {seen : List String} {service : FoundService}
    (h : (isInternetGateway service.searchType || seen.contains service.location.text) = false)
    (rest : List FoundService) :
    others seen (service :: rest) = service :: others (service.location.text :: seen) rest := by
  rw [others, List.filter_cons_of_pos (by rw [← Bool.not_or, h]; rfl), List.eraseDupsBy_cons,
    List.filter_filter, others]
  congr 3
  funext other
  simp only [atSamePlace, List.contains_cons]
  grind

/-- The fallback reports a service that it passes over, and goes on. -/
theorem visitOthers_cons_of_passed (look : Looking σ) {seen : List String} {service : FoundService}
    (h : (isInternetGateway service.searchType || seen.contains service.location.text) = true)
    (rest : List FoundService) (progress : Progress) :
    visitOthers look seen (service :: rest) progress =
      visitOthers look seen rest ⟨progress.gateways, progress.reports ++ [.seen service]⟩ := by
  rw [visitOthers, if_pos h]

/-- The fallback reports a service at a further place, and visits it. -/
theorem visitOthers_cons_run_of_fresh (look : Looking σ) {seen : List String} {service : FoundService}
    (h : (isInternetGateway service.searchType || seen.contains service.location.text) = false)
    (rest : List FoundService) (progress : Progress) (state : σ) :
    (visitOthers look seen (service :: rest) progress).run state =
      match (visit look service.location
        ⟨progress.gateways, progress.reports ++ [.seen service]⟩).run state with
      | ((.ok (), reached), last) =>
          (visitOthers look (service.location.text :: seen) rest reached).run last
      | ((.error error, reached), last) => ((.error error, reached), last) := by
  rw [visitOthers, if_neg (Bool.eq_false_iff.1 h), StateT.run_bind]
  generalize (visit look service.location _).run state = outcome
  obtain ⟨⟨_ | _, _⟩, _⟩ := outcome <;> rfl

/-- The fallback looks at the other places in order, brings what the looks bring, and reports all services
that it comes to. -/
theorem visitOthers_run (look : Looking σ) (seen : List String) (services : List FoundService)
    (progress : Progress) (state : σ) :
    ∃ looked ended reports last, Looks look state looked last ∧
      EndedAfter looked ((others seen services).map (·.location)) ended ∧
      AreReports services looked ended reports ∧
      (visitOthers look seen services progress).run state =
        ((ended, ⟨progress.gateways ++ looked.flatMap fun entry => brought entry.2,
          progress.reports ++ reports⟩), last) := by
  induction services generalizing seen progress state with
  | nil =>
    refine ⟨[], .ok (), [], state, .nil state, @EndedAfter.done [] (List.forall_mem_nil _), .nil _, ?_⟩
    rw [List.flatMap_nil, List.append_nil, List.append_nil]
    rfl
  | cons service rest ih =>
    cases h : isInternetGateway service.searchType || seen.contains service.location.text with
    | true =>
      obtain ⟨looked, ended, reports, last, hlooks, hended, hreports, hrest⟩ :=
        ih seen ⟨progress.gateways, progress.reports ++ [.seen service]⟩ state
      rw [others_cons_of_passed h, visitOthers_cons_of_passed look h]
      refine ⟨looked, ended, _, last, hlooks, hended, hreports.cons service, ?_⟩
      rw [hrest, List.append_assoc]
      rfl
    | false =>
      obtain ⟨found, next, hlook⟩ :
          ∃ found next, (look service.location).run state = (found, next) := ⟨_, _, rfl⟩
      rw [others_cons_of_fresh h, visitOthers_cons_run_of_fresh look h]
      rcases visit_run hlook ⟨progress.gateways, progress.reports ++ [.seen service]⟩ with
        ⟨hgoes, hrun⟩ | ⟨error, rfl, hcancelled, hrun⟩
      · obtain ⟨looked, ended, reports, last, hlooks, hended, hreports, hrest⟩ :=
          ih (service.location.text :: seen)
            (Progress.after ⟨progress.gateways, progress.reports ++ [.seen service]⟩
              [(service.location, found)]) next
        rw [hrun]
        refine ⟨_, ended, _, last, .cons hlook hlooks, hended.cons hgoes,
          (hreports.looked service.location found).cons service, hrest.trans ?_⟩
        simp only [Progress.after, List.flatMap_cons, List.flatMap_nil, List.append_nil,
          List.append_assoc, List.cons_append, List.nil_append]
      · rw [hrun]
        refine ⟨_, .error error, _, next, .cons hlook (.nil next),
          @EndedAfter.cancelled [] _ _ _ (List.forall_mem_nil _) hcancelled,
          .cancelled service rest hcancelled, ?_⟩
        rw [List.flatMap_singleton, brought, List.append_nil]

/-! ## Strategies -/

/-- The locations that a strategy visits, of the services that its search has found. -/
def Strategy.locations (strategy : Strategy) (services : List FoundService) : List Url :=
  (if strategy.isFallback then others [] services else services).map (·.location)

/-- What a strategy comes to: it looks at its locations in order, brings the gateways of all looks unless
one is cancelled, and warns of the descriptions that could not be read. The fallback also reports all
services that it comes to. -/
theorem Strategy.run_found (strategy : Strategy) (look : Looking σ) (services : List FoundService)
    (state : σ) :
    ∃ looked ended reports last, Looks look state looked last ∧
      EndedAfter looked (strategy.locations services) ended ∧
      AreReports (if strategy.isFallback then services else []) looked ended reports ∧
      (strategy.run look (.ok services)).run state =
        ((ended.map fun () => looked.flatMap fun entry => brought entry.2, reports), last) := by
  cases hfallback : strategy.isFallback with
  | true =>
    obtain ⟨looked, ended, reports, last, hlooks, hended, hreports, hrun⟩ :=
      visitOthers_run look [] services ⟨[], []⟩ state
    refine ⟨looked, ended, reports, last, hlooks, ?_, hreports, ?_⟩
    · rw [locations, if_pos hfallback]
      exact hended
    · rw [run, if_pos hfallback, StateT.run_bind, hrun]
      rfl
  | false =>
    obtain ⟨looked, ended, last, hlooks, hended, hrun⟩ :=
      visitEach_run look services ⟨[], []⟩ state
    refine ⟨looked, ended, looked.flatMap fun entry => skipped entry.1 entry.2, last, hlooks, ?_, ?_,
      ?_⟩
    · rw [locations, if_neg (Bool.eq_false_iff.1 hfallback)]
      exact hended
    · rw [if_neg Bool.false_ne_true]
      exact .of_looked looked ended
    · rw [run, if_neg (Bool.eq_false_iff.1 hfallback), StateT.run_bind, hrun]
      rfl

/-! ## Looks at descriptions -/

/-- Every entry of looks is what a look brought. -/
theorem Looks.of_mem {state last : σ} {looked : Looked} (h : Looks look state looked last)
    {entry : Url × Except MappingError Collection} (hmem : entry ∈ looked) :
    ∃ before, ((look entry.1).run before).1 = entry.2 := by
  induction h with
  | nil state => cases hmem
  | @cons state next last location found looked first rest ih =>
    rcases List.mem_cons.1 hmem with rfl | hmem
    · exact ⟨state, congrArg Prod.fst first⟩
    · exact ih hmem

/-- With a token that is not cancelled a document is fetched, or the exchange with its server fails. -/
theorem fetch_ne_cancelled (url : Url) (gateway : Http.Gateway) :
    ((fetch false url).run gateway).1 ≠ .error .cancelled := by
  rw [fetch, if_neg Bool.false_ne_true]
  change (StateT.run (Http.Gateway.exchange _ >>= _) gateway).1 ≠ _
  rw [StateT.run_bind]
  generalize (Http.Gateway.exchange _).run gateway = exchanged
  obtain ⟨outcome, after⟩ := exchanged
  dsimp only [bind]
  split <;> nofun

/-- Reading what was fetched is not cancelled either. -/
theorem fetchRoot_ne_cancelled (location : Url) (gateway : Http.Gateway) :
    ((fetchRoot false location).run gateway).1 ≠ .error .cancelled := by
  have hfetch := fetch_ne_cancelled location gateway
  rw [fetchRoot, StateT.run_bind]
  generalize (fetch false location).run gateway = fetched at hfetch
  obtain ⟨_ | bytes, after⟩ := fetched
  · rintro ⟨⟩
    exact hfetch rfl
  · intro h
    cases Description.Root.isReading_ofBytes bytes location _ h

/-- With a token that is not cancelled no look at a description is a cancellation. -/
theorem not_isCancellation_gatewaysAt (settings : Settings) (location : Url) (gateway : Http.Gateway) :
    ¬ IsCancellation ((gatewaysAt false settings location).run gateway).1 := by
  have hroot := fetchRoot_ne_cancelled location gateway
  rw [gatewaysAt, StateT.run_bind]
  generalize (fetchRoot false location).run gateway = fetched at hroot
  obtain ⟨error | root, after⟩ := fetched
  · cases error with
    | cancelled => exact absurd rfl hroot
    | _ => exact Bool.false_ne_true
  · exact id

/-- With a token that is not cancelled a strategy whose search succeeds does so, too: it looks at all its
locations, and brings what the looks bring. -/
theorem Strategy.run_gatewaysAt (strategy : Strategy) (settings : Settings)
    (services : List FoundService) (gateway : Http.Gateway) :
    ∃ looked reports last, Looks (gatewaysAt false settings) gateway looked last ∧
      looked.map Prod.fst = strategy.locations services ∧
      AreReports (if strategy.isFallback then services else []) looked (.ok ()) reports ∧
      (strategy.run (gatewaysAt false settings) (.ok services)).run gateway =
        ((.ok (looked.flatMap fun entry => brought entry.2), reports), last) := by
  obtain ⟨looked, ended, reports, last, hlooks, hended, hreports, hrun⟩ :=
    strategy.run_found (gatewaysAt false settings) services gateway
  generalize strategy.locations services = locations at hended ⊢
  cases hended with
  | done h => exact ⟨looked, reports, last, hlooks, rfl, hreports, hrun⟩
  | @cancelled looked location error rest h hcancelled =>
    obtain ⟨before, hbefore⟩ := hlooks.of_mem (List.mem_append_right _ List.mem_cons_self)
    have hnot := not_isCancellation_gatewaysAt settings location before
    rw [hbefore] at hnot
    exact absurd hcancelled hnot

/-- From the datagrams of a search to gateways: the strategy looks at the locations of the services that
are found in them, and brings what the looks bring. -/
theorem Strategy.discover_gatewaysAt (strategy : Strategy) (settings : Settings)
    (datagrams : List Text.Bytes) (gateway : Http.Gateway) :
    ∃ looked reports last, Looks (gatewaysAt false settings) gateway looked last ∧
      looked.map Prod.fst = strategy.locations
        (Ssdp.found strategy.searchType (Ssdp.responsesOf datagrams)) ∧
      (strategy.discover (gatewaysAt false settings) datagrams).run gateway =
        ((.ok (looked.flatMap fun entry => brought entry.2), reports), last) := by
  obtain ⟨looked, reports, last, hlooks, hlocations, _, hrun⟩ := strategy.run_gatewaysAt settings
    (Ssdp.found strategy.searchType (Ssdp.responsesOf datagrams)) gateway
  rw [discover, Ssdp.search_eq]
  exact ⟨looked, reports, last, hlooks, hlocations, hrun⟩

/-- With a cancelled token a strategy that has somewhere to look ends with the cancellation, and sends
nothing. -/
theorem Strategy.run_gatewaysAt_cancelled (strategy : Strategy) (settings : Settings)
    {services : List FoundService} (h : strategy.locations services ≠ []) (gateway : Http.Gateway) :
    ∃ reports, (strategy.run (gatewaysAt true settings) (.ok services)).run gateway =
      ((.error (.description .cancelled), reports), gateway) := by
  obtain ⟨looked, ended, reports, last, hlooks, hended, _, hrun⟩ :=
    strategy.run_found (gatewaysAt true settings) services gateway
  cases hlooks with
  | nil =>
    -- Without any look there is nowhere to look.
    exact absurd hended.locations_eq_nil h
  | cons first rest =>
    cases first
    obtain ⟨rfl, rfl⟩ := hended.cancelled_first rfl
    cases rest
    exact ⟨reports, hrun⟩

end NatGateway.Mapping
