import NatGateway.Proofs.Ssdp.Delivery
import NatGateway.Ssdp.Socket

/-!
# Datagrams as they are read

What a handler is given of the datagrams that arrive: each of them once, in the order of arrival, with its
own bytes only, until it fails. All of them are received in one buffer, but what earlier ones left there
is behind the bytes that are given away. When the deadline passes is left open: the datagrams here are
those that arrive before it.
-/

namespace NatGateway.Ssdp

open NatGateway.Text (Bytes)

variable {σ : Type} {handle : Handler σ} {state final : σ} {error : SsdpError}
  {datagrams : List Datagram} {arrivals unread : List Arrival}

/-! ## Receiving -/

/-- No datagram is too long for the buffer. -/
theorem Datagram.take_bytes (datagram : Datagram) : datagram.bytes.take 65535 = datagram.bytes :=
  List.take_of_length_le (by have := datagram.fits; omega)

/-- What stands first in the buffer is the datagram that was received, whatever stood there before. -/
theorem Buffer.front_receive (buffer : Buffer) (datagram : Datagram) :
    (buffer.receive datagram).1.front (buffer.receive datagram).2 = datagram.bytes :=
  List.take_left.trans datagram.take_bytes

/-! ## Handling -/

/-- Whether a handler comes from one state to another by handling datagrams, each with its sender and its
bytes, and fails at none of them. -/
inductive Handles (handle : Handler σ) : σ → List Datagram → σ → Prop
  | nil {state : σ} : Handles handle state [] state
  | cons {state next final : σ} {datagram : Datagram} {rest : List Datagram}
      (first : (handle datagram.sender datagram.bytes).run state = (.ok (), next))
      (after : Handles handle next rest final) : Handles handle state (datagram :: rest) final

/-- Whether reading fails at what arrives: the handler fails at a datagram, or else the socket fails, and
the handler does nothing. -/
inductive Fails (handle : Handler σ) : σ → Arrival → SsdpError → σ → Prop
  | datagram {state final : σ} {datagram : Datagram} {error : SsdpError}
      (h : (handle datagram.sender datagram.bytes).run state = (.error error, final)) :
      Fails handle state (.datagram datagram) error final
  | failure {state : σ} : Fails handle state .failure .socket state

/-- A datagram is given to the handler as it was sent, and nothing further if the handler fails. -/
theorem deliver_datagram (buffer : Buffer) (datagram : Datagram) :
    (deliver handle buffer (.datagram datagram :: arrivals)).run state =
      match (handle datagram.sender datagram.bytes).run state with
      | (.ok (), next) => (deliver handle (buffer.receive datagram).1 arrivals).run next
      | (.error error, next) => ((.error error, arrivals), next) := by
  rw [deliver, StateT.run_bind, buffer.front_receive datagram]
  obtain ⟨ended, next⟩ := (handle datagram.sender datagram.bytes).run state
  cases ended <;> rfl

/-- What arrives is datagrams that the handler handles, and perhaps a first failure behind them. -/
theorem exists_handles (handle : Handler σ) (state : σ) (arrivals : List Arrival) :
    (∃ datagrams final, arrivals = datagrams.map .datagram ∧ Handles handle state datagrams final) ∨
      ∃ datagrams last unread next error final, arrivals = datagrams.map .datagram ++ last :: unread ∧
        Handles handle state datagrams next ∧ Fails handle next last error final := by
  induction arrivals generalizing state with
  | nil => exact .inl ⟨[], state, rfl, .nil⟩
  | cons arrival arrivals ih =>
    cases arrival with
    | failure => exact .inr ⟨[], .failure, arrivals, state, .socket, state, rfl, .nil, .failure⟩
    | datagram datagram =>
      rcases hrun : (handle datagram.sender datagram.bytes).run state with ⟨ended, next⟩
      cases ended with
      | error error =>
        exact .inr ⟨[], .datagram datagram, arrivals, state, error, next, rfl, .nil, .datagram hrun⟩
      | ok =>
        rcases ih next with ⟨datagrams, final, rfl, h⟩ | ⟨datagrams, last, unread, _, _, _, rfl, h, hlast⟩
        · exact .inl ⟨datagram :: datagrams, final, rfl, .cons hrun h⟩
        · exact .inr ⟨datagram :: datagrams, last, unread, _, _, _, rfl, .cons hrun h, hlast⟩

/-- Behind datagrams that the handler handles, reading goes on with what arrives there. -/
theorem Handles.deliver_append (h : Handles handle state datagrams final) (arrivals : List Arrival)
    (buffer : Buffer) : ∃ filled,
      (deliver handle buffer (datagrams.map .datagram ++ arrivals)).run state =
        (deliver handle filled arrivals).run final := by
  induction h generalizing buffer with
  | nil => exact ⟨buffer, rfl⟩
  | @cons _ _ _ datagram _ first _ ih =>
    rw [List.map_cons, List.cons_append, deliver_datagram, first]
    exact ih (buffer.receive datagram).1

/-- Reading ends without a failure if the handler handles all that arrives. -/
theorem Handles.deliver_eq (h : Handles handle state datagrams final) (buffer : Buffer) :
    (deliver handle buffer (datagrams.map .datagram)).run state = ((.ok (), []), final) := by
  obtain ⟨filled, hrun⟩ := h.deliver_append [] buffer
  rw [List.append_nil] at hrun
  exact hrun

/-- Reading ends at a failure, and leaves what arrives behind it. -/
theorem Fails.deliver_eq {last : Arrival} (h : Fails handle state last error final) (buffer : Buffer) :
    (deliver handle buffer (last :: unread)).run state = ((.error error, unread), final) := by
  cases h with
  | failure => rfl
  | datagram hrun => rw [deliver_datagram, hrun]

/-- Reading ends without a failure exactly if only datagrams arrive and the handler handles all of
them. -/
theorem deliver_eq_ok_iff (buffer : Buffer) :
    (deliver handle buffer arrivals).run state = ((.ok (), unread), final) ↔
      unread = [] ∧ ∃ datagrams, arrivals = datagrams.map .datagram ∧
        Handles handle state datagrams final := by
  constructor
  · intro hrun
    rcases exists_handles handle state arrivals with
      ⟨datagrams, _, rfl, h⟩ | ⟨datagrams, last, _, _, _, _, rfl, h, hlast⟩
    · rw [h.deliver_eq buffer] at hrun
      cases hrun
      exact ⟨rfl, datagrams, rfl, h⟩
    · obtain ⟨filled, hbehind⟩ := h.deliver_append (last :: _) buffer
      cases hrun.symm.trans (hbehind.trans (hlast.deliver_eq filled))
  · rintro ⟨rfl, datagrams, rfl, h⟩
    exact h.deliver_eq buffer

/-- Reading fails exactly where the first failure is, behind datagrams that the handler handles, and leaves
what arrives behind it. -/
theorem deliver_eq_error_iff (buffer : Buffer) :
    (deliver handle buffer arrivals).run state = ((.error error, unread), final) ↔
      ∃ datagrams last next, arrivals = datagrams.map .datagram ++ last :: unread ∧
        Handles handle state datagrams next ∧ Fails handle next last error final := by
  constructor
  · intro hrun
    rcases exists_handles handle state arrivals with
      ⟨datagrams, _, rfl, h⟩ | ⟨datagrams, last, _, next, _, _, rfl, h, hlast⟩
    · cases hrun.symm.trans (h.deliver_eq buffer)
    · obtain ⟨filled, hbehind⟩ := h.deliver_append (last :: _) buffer
      cases hrun.symm.trans (hbehind.trans (hlast.deliver_eq filled))
      exact ⟨datagrams, last, next, rfl, h, hlast⟩
  · rintro ⟨datagrams, last, next, rfl, h, hlast⟩
    obtain ⟨filled, hbehind⟩ := h.deliver_append (last :: unread) buffer
    exact hbehind.trans (hlast.deliver_eq filled)

/-! ## Requests -/

/-- A handler that looks at the bytes of datagrams only is given what arrives as if each datagram had been
handed to it by itself. -/
theorem deliver_eq_readPackets {handle : Bytes → StateM σ (Except SsdpError Unit)} (buffer : Buffer)
    (datagrams : List Datagram) (state : σ) : ∃ unread,
      (deliver (fun _ => handle) buffer (datagrams.map .datagram)).run state =
        ((((readPackets handle (datagrams.map (·.bytes))).run state).1, unread),
          ((readPackets handle (datagrams.map (·.bytes))).run state).2) := by
  induction datagrams generalizing buffer state with
  | nil => exact ⟨[], rfl⟩
  | cons datagram rest ih =>
    rw [List.map_cons, deliver_datagram, List.map_cons, readPackets, StateT.run_bind]
    rcases (handle datagram.bytes).run state with ⟨ended, next⟩
    cases ended with
    | ok => exact ih _ next
    | error error => exact ⟨rest.map .datagram, rfl⟩

/-- Either a request cannot be sent, or its responses are those of the datagrams that arrive. -/
theorem Socket.request_eq (socket : Socket) (send : Option Net.Ipv4 → Bytes → Endpoint → Option Nat)
    (asked : SearchRequest) (datagrams : List Datagram) :
    socket.request send asked (datagrams.map .datagram) =
      (socket.write send asked.bytes socket.destination).bind fun _ =>
        Ssdp.request (datagrams.map (·.bytes)) := by
  obtain ⟨unread, hrun⟩ := @deliver_eq_readPackets _ keepResponse .zeros datagrams []
  rw [request, readArrivals, hrun]
  rfl

/-! ## Each datagram -/

/-- Datagrams are read without a failure exactly if the handler handles all of them. -/
theorem readArrivals_eq_ok_iff :
    (readArrivals handle (datagrams.map .datagram)).run state = ((.ok (), unread), final) ↔
      unread = [] ∧ Handles handle state datagrams final := by
  rw [readArrivals, deliver_eq_ok_iff]
  refine and_congr_right fun _ => ⟨?_, fun h => ⟨datagrams, rfl, h⟩⟩
  rintro ⟨others, hmap, h⟩
  rwa [List.map_injective_iff.2 (fun _ _ => Arrival.datagram.inj) hmap]

/-- Reading datagrams fails exactly at the first one that the handler fails at, and leaves those behind
it. -/
theorem readArrivals_eq_error_iff :
    (readArrivals handle (datagrams.map .datagram)).run state = ((.error error, unread), final) ↔
      ∃ before failing after next, datagrams = before ++ failing :: after ∧
        unread = after.map .datagram ∧ Handles handle state before next ∧
        (handle failing.sender failing.bytes).run next = (.error error, final) := by
  rw [readArrivals, deliver_eq_error_iff]
  constructor
  · rintro ⟨others, last, next, hmap, h, hlast⟩
    obtain ⟨before, behind, rfl, hbefore, hbehind⟩ := List.map_eq_append_iff.1 hmap
    obtain ⟨failing, after, rfl, rfl, rfl⟩ := List.map_eq_cons_iff.1 hbehind
    cases List.map_injective_iff.2 (fun _ _ => Arrival.datagram.inj) hbefore
    cases hlast with
    | datagram hrun => exact ⟨others, failing, after, next, rfl, rfl, h, hrun⟩
  · rintro ⟨before, failing, after, next, rfl, rfl, h, hrun⟩
    exact ⟨before, .datagram failing, next, by rw [List.map_append, List.map_cons], h, .datagram hrun⟩

/-- What is done with the datagrams that arrive before the deadline, whatever the handler does with its
state. Without a failure each of them is handled once, in the order of arrival, with its own bytes. Else
reading ends at the first one that the handler fails at, with that failure, and what comes behind stays
unread. So a request that can be sent returns the responses among the datagrams, and all of them, in the
order of arrival, whatever else comes between them. -/
theorem read_each_datagram :
    (∀ {σ : Type} (handle : Handler σ) (state : σ) (datagrams : List Datagram),
      (∀ unread final,
        (readArrivals handle (datagrams.map .datagram)).run state = ((.ok (), unread), final) ↔
          unread = [] ∧ Handles handle state datagrams final) ∧
        ∀ error unread final,
          (readArrivals handle (datagrams.map .datagram)).run state = ((.error error, unread), final) ↔
            ∃ before failing after next, datagrams = before ++ failing :: after ∧
              unread = after.map .datagram ∧ Handles handle state before next ∧
              (handle failing.sender failing.bytes).run next = (.error error, final)) ∧
      ∀ (socket : Socket) (send : Option Net.Ipv4 → Bytes → Endpoint → Option Nat) (asked : SearchRequest)
        (datagrams : List Datagram),
        socket.request send asked (datagrams.map .datagram) =
          (socket.write send asked.bytes socket.destination).map fun _ =>
            datagrams.filterMap fun datagram => Response.ofBytes? datagram.bytes := by
  refine ⟨fun handle state datagrams => ⟨fun unread final => readArrivals_eq_ok_iff,
    fun error unread final => readArrivals_eq_error_iff⟩, fun socket send asked datagrams => ?_⟩
  rw [socket.request_eq, request_eq, responsesOf, List.filterMap_map]
  cases socket.write send asked.bytes socket.destination <;> rfl

/-- A handler that notes what it is given and fails at an empty datagram, which comes behind a long and a
short one. -/
theorem read_each_datagram_shorter :
    let handle : Handler (List Bytes) := fun _ bytes => do
      modify (· ++ [bytes])
      return if bytes.isEmpty then .error .cancelled else .ok ()
    let sender : Endpoint := ⟨Net.Ipv4.ofOctets 192 168 1 1, 1900⟩
    let long : Datagram := ⟨sender, [72, 84, 84, 80], by decide⟩
    let short : Datagram := ⟨sender, [10], by decide⟩
    let empty : Datagram := ⟨sender, [], by decide⟩
    (readArrivals handle ([long, short, empty, long].map .datagram)).run [] =
      ((.error .cancelled, [.datagram long]), [[72, 84, 84, 80], [10], []]) := by
  intro handle sender long short empty
  have hhandles : Handles handle [] [long, short] [[72, 84, 84, 80], [10]] :=
    .cons rfl (.cons rfl .nil)
  exact ((read_each_datagram.1 handle [] [long, short, empty, long]).2 _ _ _).2
    ⟨[long, short], empty, [long], _, rfl, rfl, hhandles, rfl⟩

end NatGateway.Ssdp
