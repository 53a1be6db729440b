import Mathlib.Data.ENat.Lattice
import NatGateway.Proofs.Mapping.Client

/-!
# Attempts to add a mapping

How often a client is asked for a mapping, and what comes of it. Nothing is assumed of the client but
that its outcomes depend on its state, so they may be any sequence of successes and failures. The
gateway stops at the first success or when its attempts are used up, whichever comes first, and a
failure that it reports is the one of the last attempt.
-/

namespace NatGateway.Mapping

open NatGateway.Description (Root)
open NatGateway.Net (Ipv4)
open NatGateway.Soap (SoapError)
open NatGateway.Wan (ServiceKind)

/-! ## The first success -/

/-- The position of the first success in a sequence of outcomes, counted from one; infinite if there
is none. -/
noncomputable def firstSuccess (outcomes : Nat → Except SoapError Unit) : ℕ∞ :=
  ⨅ call : {call : Nat // outcomes call = .ok ()}, ((call.val + 1 : Nat) : ℕ∞)

/-- Where calls stop that may be repeated so many times after the first one: nowhere behind a success,
and before the last one only at a success. -/
structure StopsAt (outcomes : Nat → Except SoapError Unit) (left last : Nat) : Prop where
  within : last ≤ left
  failed : ∀ call < last, outcomes call ≠ .ok ()
  settled : last = left ∨ outcomes last = .ok ()

section

variable {outcomes : Nat → Except SoapError Unit} {left last : Nat}

/-- The first success is not behind any success. -/
theorem firstSuccess_le {call : Nat} (h : outcomes call = .ok ()) :
    firstSuccess outcomes ≤ ((call + 1 : Nat) : ℕ∞) :=
  iInf_le (fun call : {call : Nat // outcomes call = .ok ()} => ((call.val + 1 : Nat) : ℕ∞))
    ⟨call, h⟩

/-- The first success is behind failures. -/
theorem succ_le_firstSuccess (h : ∀ call < last, outcomes call ≠ .ok ()) :
    ((last + 1 : Nat) : ℕ∞) ≤ firstSuccess outcomes := by
  refine le_iInf fun call => ?_
  have hcall : last ≤ call.val := Nat.le_of_not_lt fun hlt => h call.val hlt call.property
  exact_mod_cast Nat.succ_le_succ hcall

namespace StopsAt

/-- Calls stop at a success at once. -/
theorem of_ok (h : outcomes 0 = .ok ()) (left : Nat) : StopsAt outcomes left 0 where
  within := Nat.zero_le left
  failed := fun call hcall => absurd hcall (Nat.not_lt_zero call)
  settled := Or.inr h

/-- Calls stop when none is left. -/
theorem of_none (outcomes : Nat → Except SoapError Unit) : StopsAt outcomes 0 0 where
  within := Nat.le_refl 0
  failed := fun call hcall => absurd hcall (Nat.not_lt_zero call)
  settled := Or.inl rfl

/-- After a failure calls stop where the rest of them stop. -/
theorem succ (hfirst : outcomes 0 ≠ .ok ())
    (h : StopsAt (fun call => outcomes (call + 1)) left last) :
    StopsAt outcomes (left + 1) (last + 1) where
  within := Nat.succ_le_succ h.within
  failed := by
    intro call hcall
    cases call with
    | zero => exact hfirst
    | succ call => exact h.failed call (Nat.lt_of_succ_lt_succ hcall)
  settled := h.settled.imp_left (congrArg Nat.succ)

/-- The number of calls is that of the attempts, or the position of the first success. -/
theorem calls_eq (h : StopsAt outcomes left last) :
    ((last + 1 : Nat) : ℕ∞) = min ((left + 1 : Nat) : ℕ∞) (firstSuccess outcomes) := by
  have hwithin : ((last + 1 : Nat) : ℕ∞) ≤ ((left + 1 : Nat) : ℕ∞) := by
    exact_mod_cast Nat.succ_le_succ h.within
  rcases h.settled with rfl | hok
  · exact (min_eq_left (succ_le_firstSuccess h.failed)).symm
  · have hfirst : firstSuccess outcomes = ((last + 1 : Nat) : ℕ∞) :=
      le_antisymm (firstSuccess_le hok) (succ_le_firstSuccess h.failed)
    rw [hfirst, min_eq_right hwithin]

/-- Calls stop at one place only. -/
theorem unique {other : Nat} (h : StopsAt outcomes left last)
    (hother : StopsAt outcomes left other) : last = other := by
  have hcalls : ((last + 1 : Nat) : ℕ∞) = ((other + 1 : Nat) : ℕ∞) :=
    h.calls_eq.trans hother.calls_eq.symm
  exact Nat.succ.inj (Nat.cast_injective hcalls)

/-- The last call succeeds exactly if the first success is within the attempts. -/
theorem ok_iff (h : StopsAt outcomes left last) :
    outcomes last = .ok () ↔ firstSuccess outcomes ≤ ((left + 1 : Nat) : ℕ∞) := by
  constructor
  · intro hok
    have hwithin : ((last + 1 : Nat) : ℕ∞) ≤ ((left + 1 : Nat) : ℕ∞) := by
      exact_mod_cast Nat.succ_le_succ h.within
    exact (firstSuccess_le hok).trans hwithin
  · intro hle
    rcases h.settled with rfl | hok
    · by_contra hfailed
      have hlater : ((last + 1 + 1 : Nat) : ℕ∞) ≤ firstSuccess outcomes :=
        succ_le_firstSuccess fun call hcall => by
          rcases Nat.lt_succ_iff_lt_or_eq.1 hcall with hbefore | rfl
          · exact h.failed call hbefore
          · exact hfailed
      have hcast : last + 1 + 1 ≤ last + 1 := by exact_mod_cast hlater.trans hle
      omega
    · exact hok

end StopsAt

end

/-! ## Calls of a client -/

/-- A call that a client can be asked for. -/
inductive MappingCall where
  | externalAddress
  | add (request : MappingRequest)
  | delete (key : MappingKey)
  | find (key : MappingKey)
  | status

namespace MappingClient

variable {σ : Type}

/-- The state of a client after so many calls for a mapping. -/
def stateAfter (client : MappingClient σ) (request : MappingRequest) (state : σ) : Nat → σ
  | 0 => state
  | calls + 1 => client.stateAfter request ((client.add request).run state).2 calls

/-- The outcomes of successive calls for a mapping. -/
def outcomes (client : MappingClient σ) (request : MappingRequest) (state : σ) (call : Nat) :
    Except SoapError Unit :=
  ((client.add request).run (client.stateAfter request state call)).1

/-- Note a call down, and let it take its course. -/
def noted {α : Type} (call : MappingCall) (run : StateM σ α) : StateM (List MappingCall × σ) α :=
  fun (calls, state) => ((run.run state).1, (calls ++ [call], (run.run state).2))

/-- A client whose calls are all noted down, in order. -/
def noting (client : MappingClient σ) : MappingClient (List MappingCall × σ) where
  serviceType := client.serviceType
  externalAddress := noted .externalAddress client.externalAddress
  add request := noted (.add request) (client.add request)
  delete key := noted (.delete key) (client.delete key)
  find key := noted (.find key) (client.find key)
  status := noted .status client.status

/-- Calls for one mapping are all noted down, and otherwise leave what they leave without notes. -/
theorem stateAfter_noting (client : MappingClient σ) (request : MappingRequest)
    (calls : List MappingCall) (state : σ) (count : Nat) :
    client.noting.stateAfter request (calls, state) count =
      (calls ++ List.replicate count (.add request), client.stateAfter request state count) := by
  induction count generalizing calls state with
  | zero => rw [stateAfter, stateAfter, List.replicate_zero, List.append_nil]
  | succ count ih =>
    change client.noting.stateAfter request
      (calls ++ [.add request], ((client.add request).run state).2) count = _
    rw [ih, stateAfter, List.append_assoc, List.singleton_append, ← List.replicate_succ]

/-- Notes do not change the outcomes. -/
theorem outcomes_noting (client : MappingClient σ) (request : MappingRequest)
    (calls : List MappingCall) (state : σ) :
    client.noting.outcomes request (calls, state) = client.outcomes request state := by
  funext call
  rw [outcomes, stateAfter_noting]
  rfl

/-- A client whose outcomes follow a script; its state is the number of calls for a mapping. -/
def following (script : Nat → Except SoapError Unit) : MappingClient Nat where
  serviceType := ServiceKind.ip1.serviceType
  externalAddress := pure (.error .transport)
  add _ := fun calls => (script calls, calls + 1)
  delete _ := pure (.error .transport)
  find _ := pure (.error .transport)
  status := pure (.error .transport)

/-- A client that follows a script counts its calls. -/
theorem stateAfter_following (script : Nat → Except SoapError Unit) (request : MappingRequest)
    (before count : Nat) :
    (following script).stateAfter request before count = before + count := by
  induction count generalizing before with
  | zero => rfl
  | succ count ih =>
    rw [stateAfter]
    exact (ih (before + 1)).trans (Nat.succ_add_eq_add_succ before count)

/-- Every sequence of outcomes is that of some client. -/
theorem outcomes_following (script : Nat → Except SoapError Unit) (request : MappingRequest) :
    (following script).outcomes request 0 = script := by
  funext call
  rw [outcomes, stateAfter_following, Nat.zero_add]
  rfl

end MappingClient

namespace MappingGateway

variable {σ : Type}

/-- Trying to add a mapping stops where the outcomes of the client let it stop, with the outcome of
the last call. -/
theorem tryAdd_run (gateway : MappingGateway) (client : MappingClient σ) (request : MappingRequest)
    (left : Nat) (state : σ) :
    ∃ last warnings, StopsAt (client.outcomes request state) left last ∧
      (gateway.tryAdd client request left).run state =
        ((client.outcomes request state last, warnings),
          client.stateAfter request state (last + 1)) := by
  -- The outcomes after the first call are those of the client in the state that the call left, so the
  -- state is general in the induction.
  induction left generalizing state with
  | zero => exact ⟨0, [], StopsAt.of_none _, rfl⟩
  | succ left ih =>
    cases hfirst : client.outcomes request state 0 with
    | ok value =>
      have hcall : (client.add request).run state =
          (.ok value, client.stateAfter request state 1) := Prod.ext hfirst rfl
      refine ⟨0, [], StopsAt.of_ok hfirst _, ?_⟩
      rw [tryAdd, StateT.run_bind, hcall, hfirst]
      rfl
    | error error =>
      have hcall : (client.add request).run state =
          (.error error, client.stateAfter request state 1) := Prod.ext hfirst rfl
      have hfailed : client.outcomes request state 0 ≠ .ok () := by simp [hfirst]
      obtain ⟨last, warnings, hstops, hrun⟩ := ih (client.stateAfter request state 1)
      refine ⟨last + 1, gateway.attemptWarning (gateway.attempts - (left + 1)) error :: warnings,
        StopsAt.succ hfailed hstops, ?_⟩
      rw [tryAdd, StateT.run_bind, hcall]
      change (gateway.tryAdd client request left >>= fun tried =>
        pure (tried.1, _ :: tried.2)).run (client.stateAfter request state 1) = _
      rw [StateT.run_bind, hrun]
      rfl

/-- A mapping is tried as often as the outcomes of the client let it be, and the last outcome is what
is reported. -/
theorem addMapping_run (gateway : MappingGateway) (client : MappingClient σ) {machine : Machine}
    {protocol description : String} {internalPort externalPort : UInt16} {lease : UInt32}
    {request : MappingRequest}
    (h : gateway.preparedRequest machine protocol internalPort externalPort lease description =
      .ok request) (state : σ) :
    ∃ last warnings, StopsAt (client.outcomes request state) (gateway.attempts - 1) last ∧
      (gateway.addMapping client machine protocol internalPort externalPort lease description).run
          state =
        ((sorted (client.outcomes request state last), warnings),
          client.stateAfter request state (last + 1)) := by
  obtain ⟨last, warnings, hstops, hrun⟩ :=
    tryAdd_run gateway client request (gateway.attempts - 1) state
  refine ⟨last, warnings, hstops, ?_⟩
  rw [addMapping_of_ok client h, StateT.run_bind, hrun]
  rfl

/-- A success is reported as one, and only a success. -/
theorem sorted_eq_ok_iff {outcome : Except SoapError Unit} :
    sorted outcome = .ok () ↔ outcome = .ok () := by
  cases outcome with
  | ok value => simp [sorted]
  | error error => simp [sorted]

/-- The request for a mapping from the parts that are found for it. -/
theorem preparedRequest_of_found {gateway : MappingGateway} {machine : Machine} {spelling : String}
    {protocol : Protocol} (hprotocol : Protocol.ofText? spelling = some protocol) {internal : Ipv4}
    (hinternal : gateway.internalAddress machine = .ok internal)
    (internalPort externalPort : UInt16) (lease : UInt32) (description : String) :
    gateway.preparedRequest machine spelling internalPort externalPort lease description =
      .ok (gateway.mappingRequest protocol internal internalPort externalPort lease
        description) := by
  rw [preparedRequest, readProtocol, hprotocol, hinternal]
  rfl

/-- What the failure of a call is reported as. -/
theorem sorted_error (error : SoapError) :
    sorted (.error error : Except SoapError Unit) = .error (match error with
      | .fault refusal => .fault refusal
      | .transport => .transport .transport
      | .status code => .transport (.status code)
      | other => .decode other) := by
  cases error <;> rfl

/-- A description that tells nothing but the name of a device. -/
def namedRoot (name : String) (base : Url) : Root :=
  let unknown := Description.Reference.ofText ""
  ⟨⟨1, 0⟩, base, base.text,
    .node ⟨"", name, "", unknown, "", "", "", "", unknown, "", "", "", [], [], unknown⟩ []⟩

/-- How often a client is asked for a mapping, and what is reported. A gateway asks as often as its
settings say, though once at least, or up to the first success if that comes earlier. Every time it
asks for the same, and for nothing else. It reports success exactly if one is met, and otherwise the
failure of the last call: a fault as a fault, a failure of the exchange as such, and any other one as
an answer that could not be read. -/
theorem addMapping_attempts (client : MappingClient σ) (kind : ServiceKind) (root : Root)
    (settings : Settings) (machine : Machine) {spelling : String} {protocol : Protocol}
    (hprotocol : Protocol.ofText? spelling = some protocol) {internal : Ipv4}
    (hinternal : (ofRoot kind root settings).internalAddress machine = .ok internal)
    (internalPort externalPort : UInt16) (lease : UInt32) (description : String) (state : σ) :
    let gateway := ofRoot kind root settings
    let request :=
      gateway.mappingRequest protocol internal internalPort externalPort lease description
    let outcomes := client.outcomes request state
    let attempts := max settings.attempts 1
    let run := (gateway.addMapping client.noting machine spelling internalPort externalPort lease
      description).run ([], state)
    ∃ calls : Nat, (calls : ℕ∞) = min (attempts : ℕ∞) (firstSuccess outcomes) ∧
      run.2 = (List.replicate calls (.add request), client.stateAfter request state calls) ∧
      run.1.1 = ((gateway.addMapping client machine spelling internalPort externalPort lease
        description).run state).1.1 ∧
      (run.1.1 = .ok () ↔ firstSuccess outcomes ≤ attempts) ∧
      (attempts < firstSuccess outcomes → ∃ error, outcomes (attempts - 1) = .error error ∧
        run.1.1 = .error (match error with
          | .fault refusal => .fault refusal
          | .transport => .transport .transport
          | .status code => .transport (.status code)
          | other => .decode other)) := by
  intro gateway request outcomes attempts run
  have hprepared := preparedRequest_of_found hprotocol hinternal internalPort externalPort lease
    description
  obtain ⟨last, warnings, hstops, hrun⟩ :=
    addMapping_run gateway client.noting hprepared ([], state)
  obtain ⟨plainLast, plainWarnings, hplainStops, hplain⟩ := addMapping_run gateway client hprepared
    state
  rw [MappingClient.outcomes_noting] at hstops hrun
  rw [MappingClient.stateAfter_noting] at hrun
  have hresult : run.1.1 = sorted (outcomes last) := congrArg (·.1.1) hrun
  have hattempts : gateway.attempts - 1 + 1 = attempts :=
    Nat.sub_add_cancel (Nat.le_max_right settings.attempts 1)
  have hcalls := hstops.calls_eq
  have hok := hstops.ok_iff
  rw [hattempts] at hcalls hok
  refine ⟨last + 1, hcalls, congrArg Prod.snd hrun, ?_, ?_, fun hlate => ?_⟩
  · rw [hresult, hplain, hplainStops.unique hstops]
  · rw [hresult, sorted_eq_ok_iff]
    exact hok
  · cases hlast : outcomes last with
    | ok value => exact absurd (hok.1 hlast) (not_le.2 hlate)
    | error error =>
      have hend : last = attempts - 1 := by
        rcases hstops.settled with hend | hsuccess
        · exact hend
        · exact absurd (hok.1 hsuccess) (not_le.2 hlate)
      exact ⟨error, hend ▸ hlast, by rw [hresult, hlast, sorted_error]⟩

/-- Three attempts that fail, each in another way, before one that would have succeeded. -/
theorem addMapping_thirdFailure :
    let script : Nat → Except SoapError Unit
      | 0 => .error (.fault ⟨"s:Client", "UPnPError", "", ⟨"718", "ConflictInMappingEntry"⟩⟩)
      | 1 => .error (.status 500)
      | 2 => .error .missingBody
      | _ => .ok ()
    let root := namedRoot "box" ⟨"http", some ⟨"", "", some (.ipv4 (.ofOctets 192 168 1 1)), none⟩,
      .segments ["desc"], none, none⟩
    let machine : Machine := ⟨[⟨.ofOctets 192 168 1 7, .ofOctets 255 255 255 0⟩], []⟩
    let request : MappingRequest := ⟨"", 8080, "UDP", 80, "192.168.1.7", true, "pmonat", 60⟩
    Protocol.ofText? "udp" = some .udp ∧
      (ofRoot .ip1 root .standard).internalAddress machine = .ok (.ofOctets 192 168 1 7) ∧
      (((ofRoot .ip1 root .standard).addMapping (MappingClient.following script).noting machine "udp"
          80 8080 60 "").run ([], 0)).2 = ([.add request, .add request, .add request], 3) ∧
      (((ofRoot .ip1 root .standard).addMapping (MappingClient.following script).noting machine "udp"
          80 8080 60 "").run ([], 0)).1.1 = .error (.decode .missingBody) := by
  intro script root machine request
  have hprotocol : Protocol.ofText? "udp" = some .udp := by decide
  have hinternal : (ofRoot .ip1 root .standard).internalAddress machine =
      .ok (.ofOctets 192 168 1 7) := by decide
  refine ⟨hprotocol, hinternal, ?_⟩
  obtain ⟨calls, hcalls, hafter, _, _, hfailure⟩ := addMapping_attempts
    (MappingClient.following script) .ip1 root .standard machine hprotocol hinternal 80 8080 60 "" 0
  rw [MappingClient.outcomes_following] at hcalls hfailure
  have hfailed : ∀ call < 3, script call ≠ .ok ()
    | 0, _ => nofun
    | 1, _ => nofun
    | 2, _ => nofun
  have hlate : ((max Settings.standard.attempts 1 : Nat) : ℕ∞) < firstSuccess script :=
    lt_of_lt_of_le (Nat.cast_lt.2 (Nat.lt_succ_self 3)) (succ_le_firstSuccess hfailed)
  have hthree : calls = 3 := by
    rw [min_eq_left hlate.le] at hcalls
    exact Nat.cast_injective hcalls
  subst hthree
  obtain ⟨error, herror, hresult⟩ := hfailure hlate
  obtain rfl : SoapError.missingBody = error := Except.error.inj herror
  exact ⟨hafter, hresult⟩

end MappingGateway

end NatGateway.Mapping
