import Mathlib.Logic.Relation
import NatGateway.Http.Exchange

/-!
# Exchanges one after the other

What an exchange answers and which requests it sends, and which ones a whole run sends. An exchange sends
its own request first; whatever else it sends, it was redirected to. A run only adds to what the gateway
has noted, so the requests of a run are those that stand before the ones of earlier runs.
-/

namespace NatGateway.Http

variable {request first further : Request} {reply : Reply} {replies others : List Reply}

/-! ## Redirects -/

/-- Whether a reply redirects any request to a document. -/
def Reply.NamesDocument : Reply → Prop
  | .answered status (some _) _ => status = 301 ∨ status = 302 ∨ status = 303
  | _ => False

/-- Whether a request carries nothing and asks for a document. -/
def Request.IsBare (request : Request) : Prop :=
  request.method = "GET" ∧ request.contentType = none ∧ request.body = ""

/-- Whether one of these replies redirects a request to another one. -/
def RedirectedBy (replies : List Reply) (request further : Request) : Prop :=
  ∃ reply ∈ replies, request.redirected? reply = some further

/-- Whether a request is the first one of an exchange, or redirected from it in one step or several. -/
def ComesOf (replies : List Reply) (first request : Request) : Prop :=
  Relation.ReflTransGen (RedirectedBy replies) first request

/-- A reply redirects a request to the same one at another URL, or to the bare one if it names a
document. -/
theorem Request.redirected?_eq_some (h : request.redirected? reply = some further) :
    further = { request with url := further.url } ∨
      further = { request.bare with url := further.url } ∧ reply.NamesDocument := by
  cases reply with
  | failed => cases h
  | answered status location body =>
    cases location with
    | none => cases h
    | some location =>
      obtain ⟨next, hnext, hurl⟩ := Option.bind_eq_some_iff.1 h
      obtain ⟨url, _, rfl⟩ := Option.map_eq_some_iff.1 hurl
      split at hnext
      · obtain rfl := Option.some.inj hnext
        exact Or.inl rfl
      · split at hnext
        · next hstatus =>
          obtain rfl := Option.some.inj hnext
          refine Or.inr ⟨rfl, ?_⟩
          rw [Bool.or_eq_true, Bool.or_eq_true, decide_eq_true_eq, decide_eq_true_eq, decide_eq_true_eq,
            or_assoc] at hstatus
          exact hstatus
        · cases hnext

/-- What comes of a request is the same one at another URL, or the bare one if a reply named a
document. -/
theorem ComesOf.same_or_bare (h : ComesOf replies first request) :
    request = { first with url := request.url } ∨
      request = { first.bare with url := request.url } ∧ ∃ reply ∈ replies, reply.NamesDocument := by
  induction h with
  | refl => exact Or.inl rfl
  | @tail earlier request _ hstep ih =>
    obtain ⟨reply, hreply, hredirected⟩ := hstep
    rcases Request.redirected?_eq_some hredirected with hsame | ⟨hbare, hnames⟩
    · rcases ih with hearlier | ⟨hearlier, hnamed⟩
      · rw [hearlier] at hsame
        exact Or.inl hsame
      · rw [hearlier] at hsame
        exact Or.inr ⟨hsame, hnamed⟩
    · -- A bare request stays bare, so it does not matter what stood before.
      refine Or.inr ⟨?_, reply, hreply, hnames⟩
      rcases ih with hearlier | ⟨hearlier, _⟩
      · rw [hearlier] at hbare
        exact hbare
      · rw [hearlier] at hbare
        exact hbare

/-- More replies redirect to more requests. -/
theorem ComesOf.mono (h : ComesOf replies first request) (hsub : ∀ reply ∈ replies, reply ∈ others) :
    ComesOf others first request := by
  induction h with
  | refl => exact .refl
  | tail _ hstep ih =>
    obtain ⟨reply, hreply, hredirected⟩ := hstep
    exact ih.tail ⟨reply, hsub reply hreply, hredirected⟩

namespace Gateway

variable {gateway : Gateway}

/-- A reply that redirects is one of the script: when that is over, nothing redirects any more. -/
theorem next_mem_of_redirected (h : request.redirected? gateway.next = some further) :
    gateway.next ∈ gateway.script := by
  unfold next at h ⊢
  cases hscript : gateway.script with
  | nil =>
    rw [hscript] at h
    cases h
  | cons reply rest => exact List.mem_cons_self

variable {goOn : Request → StateM Gateway Outcome}

/-- What sending a request does: the exchange ends with a reply that redirects to nothing, it is given up
at a redirect, or it goes on with another request. -/
theorem send_cases (goOn : Request → StateM Gateway Outcome) (request : Request) (gateway : Gateway) :
    (request.redirected? gateway.next = none ∧
      (send goOn request).run gateway = (gateway.next.outcome, gateway.noting request)) ∨
    ∃ further, request.redirected? gateway.next = some further ∧
      ((send goOn request).run gateway = (.failed, gateway.noting request) ∨
        (send goOn request).run gateway = (goOn further).run (gateway.noting request)) := by
  simp only [send, StateT.run_bind, StateT.run_get, StateT.run_set, pure_bind]
  cases hnext : request.redirected? gateway.next with
  | none => exact Or.inl ⟨rfl, rfl⟩
  | some further =>
    refine Or.inr ⟨further, rfl, ?_⟩
    by_cases hscheme : further.url.scheme = "http"
    · exact Or.inr (by simp only [if_pos hscheme])
    · exact Or.inl (by simp only [if_neg hscheme]; rfl)

/-- What becomes of an exchange that reaches the gateway. -/
def outcome (gateway : Gateway) (request : Request) : Outcome :=
  ((follow redirectLimit request).run gateway).1

/-- The gateway after an exchange that reached it. -/
def after (gateway : Gateway) (request : Request) : Gateway :=
  ((follow redirectLimit request).run gateway).2

/-- A request that does not reach the gateway fails. -/
theorem exchange_run (request : Request) (gateway : Gateway) :
    (exchange request).run gateway =
      if gateway.reaches request.url = true then (gateway.outcome request, gateway.after request)
      else (.failed, gateway) := by
  simp only [exchange, StateT.run_bind, StateT.run_get, pure_bind]
  split <;> rfl

/-- An exchange that is not redirected is over with the reply to its request. -/
theorem follow_of_not_redirected (h : request.redirected? gateway.next = none) (left : Nat) :
    (follow left request).run gateway = (gateway.next.outcome, gateway.noting request) := by
  have hsend : ∀ goOn : Request → StateM Gateway Outcome,
      (send goOn request).run gateway = (gateway.next.outcome, gateway.noting request) := by
    intro goOn
    rcases send_cases goOn request gateway with ⟨_, hrun⟩ | ⟨_, hsome, _⟩
    · exact hrun
    · cases h.symm.trans hsome
  cases left with
  | zero => exact hsend _
  | succ left => exact hsend _

/-- What becomes of an exchange that is not redirected is settled by the next reply. -/
theorem outcome_of_not_redirected (h : request.redirected? gateway.next = none) :
    gateway.outcome request = gateway.next.outcome :=
  congrArg Prod.fst (follow_of_not_redirected h redirectLimit)

variable {Q : Outcome → Prop}

/-- What holds of a failure, of the refusal after the script and of all replies to come, holds of what
becomes of a request if it holds of what becomes of the next one. -/
theorem send_outcome (hfailed : Q .failed) (hover : Q (.answered 500 (some [])))
    (hgoOn : ∀ further gateway, (∀ reply ∈ gateway.script, Q reply.outcome) →
      Q ((goOn further).run gateway).1)
    (h : ∀ reply ∈ gateway.script, Q reply.outcome) (request : Request) :
    Q ((send goOn request).run gateway).1 := by
  rcases send_cases goOn request gateway with ⟨_, hrun⟩ | ⟨further, _, hrun | hrun⟩
  · rw [hrun]
    change Q gateway.next.outcome
    unfold next
    cases hscript : gateway.script with
    | nil => exact hover
    | cons reply rest => exact h reply (hscript ▸ List.mem_cons_self)
  · rw [hrun]
    exact hfailed
  · rw [hrun]
    exact hgoOn further _ fun reply hreply => h reply (List.mem_of_mem_tail hreply)

/-- What holds of a failure, of the refusal after the script and of all replies to come, holds of the
outcome of an exchange. -/
theorem outcome_of_forall (hfailed : Q .failed) (hover : Q (.answered 500 (some [])))
    (h : ∀ reply ∈ gateway.script, Q reply.outcome) (request : Request) : Q (gateway.outcome request) := by
  unfold outcome
  generalize redirectLimit = left
  induction left generalizing gateway request with
  | zero =>
    refine send_outcome hfailed hover ?_ h request
    exact fun _ _ _ => hfailed
  | succ left ih => exact send_outcome hfailed hover (fun further _ h => ih h further) h request

end Gateway

/-- What an exchange leaves of a gateway: the request that it began with was sent, and then those that
it was redirected to, each of which used up a reply. -/
structure Exchanged (limit : Nat) (first : Request) (before after : Gateway) (later : List Request) :
    Prop where
  host : after.host = before.host
  port : after.port = before.port
  received : after.received = later ++ first :: before.received
  script : after.script = before.script.drop (later.length + 1)
  limit : later.length ≤ limit
  alone : first.redirected? before.next = none → later = []
  redirected : ∀ request ∈ later, ComesOf before.script first request

/-- Sending a request, and going on with at most so many others or none, is an exchange. -/
theorem Gateway.send_exchanged {goOn : Request → StateM Gateway Outcome} {limit : Nat}
    (hgoOn : ∀ further gateway, ((goOn further).run gateway).2 = gateway ∨
      ∃ later fewer, limit = fewer + 1 ∧
        Exchanged fewer further gateway ((goOn further).run gateway).2 later)
    (request : Request) (gateway : Gateway) :
    ∃ later, Exchanged limit request gateway ((send goOn request).run gateway).2 later := by
  have halone : Exchanged limit request gateway (gateway.noting request) [] :=
    ⟨rfl, rfl, rfl, List.drop_one.symm, Nat.zero_le limit, fun _ => rfl, fun _ h => nomatch h⟩
  rcases send_cases goOn request gateway with ⟨_, hrun⟩ | ⟨further, hfurther, hrun | hrun⟩
  · exact ⟨[], hrun ▸ halone⟩
  · exact ⟨[], hrun ▸ halone⟩
  rcases hgoOn further (gateway.noting request) with hstays | ⟨later, fewer, rfl, hlater⟩
  · rw [hrun, hstays]
    exact ⟨[], halone⟩
  · have hstep : RedirectedBy gateway.script request further :=
      ⟨gateway.next, next_mem_of_redirected hfurther, hfurther⟩
    refine ⟨later ++ [further], hrun ▸ ⟨hlater.host, hlater.port, ?_, ?_, ?_, ?_, ?_⟩⟩
    · rw [hlater.received, List.append_assoc]
      rfl
    · rw [hlater.script, List.length_append, List.length_singleton]
      exact List.drop_tail
    · rw [List.length_append, List.length_singleton]
      exact Nat.succ_le_succ hlater.limit
    · intro hnone
      cases hnone.symm.trans hfurther
    · intro sent hsent
      refine Relation.ReflTransGen.head hstep ?_
      rcases List.mem_append.1 hsent with hlate | honly
      · exact (hlater.redirected sent hlate).mono fun _ => List.mem_of_mem_tail
      · obtain rfl := List.mem_singleton.1 honly
        exact .refl

/-- An exchange that reaches the gateway sends its request, and then what it is redirected to. -/
theorem Gateway.exists_exchanged (request : Request) (gateway : Gateway) :
    ∃ later, Exchanged redirectLimit request gateway (gateway.after request) later := by
  unfold after
  generalize redirectLimit = left
  induction left generalizing gateway request with
  | zero => exact send_exchanged (fun _ _ => Or.inl rfl) request gateway
  | succ left ih =>
    refine send_exchanged (fun further gateway => Or.inr ?_) request gateway
    obtain ⟨later, hlater⟩ := ih further gateway
    exact ⟨later, left, rfl, hlater⟩

/-- A run that only adds requests to those that the gateway has noted, each of which is of some kind or
redirected from one of that kind and uses up one reply. -/
def OnlySends {α : Type} (P : Request → Prop) (m : StateM Gateway α) : Prop :=
  ∀ gateway, ∃ sent, (m.run gateway).2.received = sent ++ gateway.received ∧
    (m.run gateway).2.script = gateway.script.drop sent.length ∧
      ∀ r ∈ sent, ∃ first, P first ∧ ComesOf gateway.script first r

namespace OnlySends

variable {α β : Type} {P : Request → Prop}

/-- A run without an exchange sends nothing. -/
theorem pure (value : α) : OnlySends P (Pure.pure value) := by
  intro gateway
  exact ⟨[], rfl, rfl, fun _ h => nomatch h⟩

/-- One run after the other sends what both send. -/
theorem bind {m : StateM Gateway α} {next : α → StateM Gateway β} (hm : OnlySends P m)
    (hnext : ∀ value, OnlySends P (next value)) : OnlySends P (m >>= next) := by
  intro gateway
  obtain ⟨earlier, hearlier, hearlierScript, hearlierP⟩ := hm gateway
  obtain ⟨later, hlater, hlaterScript, hlaterP⟩ :=
    hnext (m.run gateway).1 (m.run gateway).2
  refine ⟨later ++ earlier, ?_, ?_, fun r hr => ?_⟩
  · rw [List.append_assoc, ← hearlier, ← hlater]
    rfl
  · rw [List.length_append, Nat.add_comm, ← List.drop_drop, ← hearlierScript, ← hlaterScript]
    rfl
  · rcases List.mem_append.1 hr with hr | hr
    · obtain ⟨first, hfirst, hcomes⟩ := hlaterP r hr
      rw [hearlierScript] at hcomes
      exact ⟨first, hfirst, hcomes.mono fun _ => List.mem_of_mem_drop⟩
    · exact hearlierP r hr

/-- An exchange sends its request and what that is redirected to, or nothing. -/
theorem exchange (h : P request) : OnlySends P (Gateway.exchange request) := by
  intro gateway
  rw [Gateway.exchange_run]
  split
  · obtain ⟨later, hlater⟩ := Gateway.exists_exchanged request gateway
    refine ⟨later ++ [request], ?_, ?_, fun r hr => ⟨request, h, ?_⟩⟩
    · rw [List.append_assoc]
      exact hlater.received
    · rw [List.length_append]
      exact hlater.script
    · rcases List.mem_append.1 hr with hlate | honly
      · exact hlater.redirected r hlate
      · obtain rfl := List.mem_singleton.1 honly
        exact .refl
  · exact ⟨[], rfl, rfl, fun _ h => nomatch h⟩

/-- A run that sends requests of a kind that does not depend on the URL sends nothing else, but for bare
requests after replies that name documents. -/
theorem exists_sent {m : StateM Gateway α} (h : OnlySends P m)
    (hP : ∀ request url, P request → P { request with url := url }) (gateway : Gateway) :
    ∃ sent, (m.run gateway).2.received = sent ++ gateway.received ∧
      ∀ r ∈ sent, P r ∨ r.IsBare ∧ ∃ reply ∈ gateway.script, reply.NamesDocument := by
  obtain ⟨sent, hsent, _, hcomes⟩ := h gateway
  refine ⟨sent, hsent, fun r hr => ?_⟩
  obtain ⟨first, hfirst, hr⟩ := hcomes r hr
  rcases hr.same_or_bare with hsame | ⟨hbare, hnamed⟩
  · rw [hsame]
    exact Or.inl (hP first r.url hfirst)
  · rw [hbare]
    exact Or.inr ⟨⟨rfl, rfl, rfl⟩, hnamed⟩

/-- What holds of all replies to come holds of those that a run leaves. -/
theorem forall_script {m : StateM Gateway α} (h : OnlySends P m) {Q : Reply → Prop}
    {gateway : Gateway} (hQ : ∀ reply ∈ gateway.script, Q reply) :
    ∀ reply ∈ (m.run gateway).2.script, Q reply := by
  obtain ⟨sent, _, hscript, _⟩ := h gateway
  intro reply hreply
  rw [hscript] at hreply
  exact hQ reply (List.mem_of_mem_drop hreply)

end OnlySends

end NatGateway.Http
