import NatGateway.Mapping.Collect
import NatGateway.Mapping.Error
import NatGateway.Ssdp.Search

/-!
# Discovery

How the gateways of a network are found. Three strategies run beside each other: two of them search for a
version of the device that holds WAN connections, and the third one for everything, because some gateways
only answer to that. Their results come in whatever order the strategies end in. The third one only counts
if the others have found nothing, and then only for a while.

What comes first where several things may happen is left open, and so is what a look at a description
brings: it is a parameter of the strategies.
-/

namespace NatGateway.Mapping

open NatGateway.Ssdp (FoundService SsdpError)

/-- The second version of the device that holds WAN connections. -/
def wanConnectionDevice2 : String := "urn:schemas-upnp-org:device:WANConnectionDevice:2"

/-- The ways to find gateways. -/
inductive Strategy where
  | device1
  | device2
  | everything
deriving DecidableEq

namespace Strategy

/-- What a strategy is called in reports. -/
def name : Strategy → String
  | .device1 => "WANConnectionDevice:1"
  | .device2 => "WANConnectionDevice:2"
  | .everything => "ssdp:all"

/-- What a strategy searches for. -/
def searchType : Strategy → String
  | .device1 => wanConnectionDevice1
  | .device2 => wanConnectionDevice2
  | .everything => "ssdp:all"

/-- Whether a strategy only counts if the others have found nothing. -/
def isFallback : Strategy → Bool
  | .everything => true
  | _ => false

end Strategy

/-! ## Reports -/

/-- What a discovery reports while it runs. -/
inductive Report where
  | seen (service : FoundService)
  | skipped (location : Url) (error : MappingError)
  | failed (strategy : Strategy) (error : MappingError)
deriving DecidableEq

/-- How serious a report is. -/
inductive Severity where
  | information
  | warning
  | error
deriving DecidableEq

/-- The wording of a failure in a report, where it has one. -/
def MappingError.wording? : MappingError → Option String
  | .description cause => cause.message?
  | .search cause => cause.message?
  | error => error.message?

namespace Report

/-- How serious a report is: a failed strategy is an error, a device that is skipped is not. -/
def severity : Report → Severity
  | .seen _ => .information
  | .skipped _ _ => .warning
  | .failed _ _ => .error

/-- The text of a report, where the failure in it has a wording. -/
def text? : Report → Option String
  | .seen service =>
      some ("found device location=" ++ service.location.text ++ " st=" ++ service.searchType)
  | .skipped location error =>
      error.wording?.map fun wording => "skip device " ++ location.text ++ ": " ++ wording
  | .failed strategy error =>
      error.wording?.map fun wording => "async discover " ++ strategy.name ++ " error " ++ wording

end Report

/-! ## One strategy -/

/-- What a strategy has come to: the gateways of the descriptions that it has read, and its reports. -/
structure Progress where
  gateways : List Collected
  reports : List Report

variable {σ : Type}

/-- What a look at the description at a location brings. -/
abbrev Looking (σ : Type) := Url → StateM σ (Except MappingError Collection)

/-- Visit a location. A description that cannot be read is skipped; only if the token is cancelled there
is nothing more to do. -/
def visit (look : Looking σ) (location : Url) (progress : Progress) :
    StateM σ (Except MappingError Unit × Progress) := do
  match ← look location with
  | .ok found => return (.ok (), { progress with gateways := progress.gateways ++ found.gateways })
  | .error error =>
      if error.isCancelled then return (.error error, progress)
      else
        return (.ok (), { progress with reports := progress.reports ++ [.skipped location error] })

/-- Visit the locations of services one after another. -/
def visitEach (look : Looking σ) :
    List FoundService → Progress → StateM σ (Except MappingError Unit × Progress)
  | [], progress => return (.ok (), progress)
  | service :: rest, progress => do
      match ← visit look service.location progress with
      | (.ok (), progress) => visitEach look rest progress
      | (.error error, progress) => return (.error error, progress)

/-- Visit the locations of services one after another, but none twice, and none of an internet gateway
device itself, which the other strategies find. All services are reported. -/
def visitOthers (look : Looking σ) :
    List String → List FoundService → Progress → StateM σ (Except MappingError Unit × Progress)
  | _, [], progress => return (.ok (), progress)
  | seen, service :: rest, progress => do
      let progress := { progress with reports := progress.reports ++ [.seen service] }
      if Ssdp.isInternetGateway service.searchType || seen.contains service.location.text then
        visitOthers look seen rest progress
      else
        match ← visit look service.location progress with
        | (.ok (), progress) => visitOthers look (service.location.text :: seen) rest progress
        | (.error error, progress) => return (.error error, progress)

/-- Run a strategy on the outcome of its search. -/
def Strategy.run (strategy : Strategy) (look : Looking σ)
    (searched : Except SsdpError (List FoundService)) :
    StateM σ (Except MappingError (List Collected) × List Report) :=
  match searched with
  | .error error => return (.error (.search error), [])
  | .ok services => do
      let (ended, progress) ←
        if strategy.isFallback then visitOthers look [] services ⟨[], []⟩
        else visitEach look services ⟨[], []⟩
      return (ended.map fun () => progress.gateways, progress.reports)

/-- Run a strategy on the datagrams that arrive in its search. -/
def Strategy.discover (strategy : Strategy) (look : Looking σ) (datagrams : List Text.Bytes) :
    StateM σ (Except MappingError (List Collected) × List Report) :=
  strategy.run look (Ssdp.search strategy.searchType datagrams)

/-- How the task of a strategy ends. -/
inductive Ending where
  | returned (result : Except MappingError (List Collected))
  | panicked (reason : String)

/-- What the task of a strategy has brought; a panic is a failure. -/
def Ending.result (strategy : Strategy) : Ending → Except MappingError (List Collected)
  | .returned result => result
  | .panicked reason => .error (.taskFailed strategy.name reason)

/-! ## The run -/

/-- What a discovery is waiting for. -/
inductive Phase where
  | collecting
  | fallingBack
  | finished
deriving DecidableEq

/-- A discovery on its way: the strategies that have not ended, their results that were sent and not
received yet, the gateways so far, and the reports of failed strategies. -/
structure Discovery where
  phase : Phase
  running : List Strategy
  sent : List (List Collected)
  fallback : Option (List Collected)
  gateways : List Collected
  reports : List Report

/-- What can happen to a discovery: a strategy ends, a result is received, the senders of results are all
gone, the time for the fallback is over, or the token is cancelled. -/
inductive Happening where
  | ended (strategy : Strategy) (ending : Ending)
  | received
  | closed
  | graceOver
  | cancelled

namespace Discovery

/-- The beginning of a discovery. -/
def start : Discovery := ⟨.collecting, [.device1, .device2, .everything], [], none, [], []⟩

/-- What is left of a discovery when a strategy ends. A result is sent, a failure is reported, and a
cancellation is passed over. -/
def afterEnd (discovery : Discovery) (strategy : Strategy) (ending : Ending) : Discovery :=
  let discovery := { discovery with running := discovery.running.erase strategy }
  match ending.result strategy with
  | .ok gateways =>
      if strategy.isFallback then { discovery with fallback := some gateways }
      else { discovery with sent := discovery.sent ++ [gateways] }
  | .error error =>
      if error.isCancelled then discovery
      else { discovery with reports := discovery.reports ++ [.failed strategy error] }

/-- What a happening does, where it can happen. -/
def step (discovery : Discovery) : Happening → Option Discovery
  | .ended strategy ending =>
      if strategy ∈ discovery.running then some (discovery.afterEnd strategy ending) else none
  | .received =>
      match discovery.phase, discovery.sent, discovery.fallback with
      | .collecting, found :: rest, _ =>
          some { discovery with sent := rest, gateways := discovery.gateways ++ found }
      | .fallingBack, _, some found =>
          some { discovery with
            phase := .finished, fallback := none, gateways := discovery.gateways ++ found }
      | _, _, _ => none
  | .closed =>
      match discovery.phase with
      | .collecting =>
          if discovery.sent.isEmpty && discovery.running.all Strategy.isFallback then
            some { discovery with
              phase := if discovery.gateways.isEmpty then .fallingBack else .finished }
          else none
      | .fallingBack =>
          if discovery.fallback.isNone && !discovery.running.contains .everything then
            some { discovery with phase := .finished }
          else none
      | .finished => none
  | .graceOver =>
      if discovery.phase = .fallingBack then some { discovery with phase := .finished } else none
  | .cancelled =>
      if discovery.phase = .finished then none else some { discovery with phase := .finished }

/-- What becomes of a discovery by one happening after another. -/
def run (discovery : Discovery) (happenings : List Happening) : Option Discovery :=
  happenings.foldlM step discovery

end Discovery

end NatGateway.Mapping
