import Mathlib.Data.List.Perm.Basic
import NatGateway.Proofs.Ssdp.Search

/-!
# Datagrams as they come

A network may deliver the answers to a search in any order, deliver some of them more than once, and
deliver datagrams in between that are no responses. None of that changes what a search finds, apart
from the order: which places and names are found only depends on which responses arrive at all, and
each is found once. Datagrams that arrive later only add services behind those found before.
-/

namespace NatGateway.Ssdp

open NatGateway.Text (Bytes)

variable {searchType : String} {datagrams others : List Bytes} {responses : List Response}

/-! ## Deliveries -/

/-- One delivery of datagrams and another one that differs from it by the order, by datagrams that
come again, and by datagrams that are no responses. -/
inductive Redelivered : List Bytes → List Bytes → Prop
  | reordered {datagrams others : List Bytes} (h : datagrams.Perm others) :
      Redelivered datagrams others
  | repeated {datagram : Bytes} {datagrams : List Bytes} (h : datagram ∈ datagrams) :
      Redelivered datagrams (datagram :: datagrams)
  | unreadable {datagram : Bytes} {datagrams : List Bytes}
      (h : Response.ofBytes? datagram = none) : Redelivered datagrams (datagram :: datagrams)
  | trans {first second third : List Bytes} (before : Redelivered first second)
      (after : Redelivered second third) : Redelivered first third

/-- The responses of a delivery are those that its datagrams are read as. -/
theorem mem_responsesOf {response : Response} :
    response ∈ responsesOf datagrams ↔
      ∃ datagram ∈ datagrams, Response.ofBytes? datagram = some response :=
  List.mem_filterMap

/-- The same responses arrive, however they are delivered. -/
theorem Redelivered.mem_responsesOf_iff (h : Redelivered datagrams others) (response : Response) :
    response ∈ responsesOf datagrams ↔ response ∈ responsesOf others := by
  induction h with
  | reordered h => simp only [mem_responsesOf, h.mem_iff]
  | @repeated datagram datagrams h =>
    rw [mem_responsesOf, mem_responsesOf]
    constructor
    · rintro ⟨known, hknown, hread⟩
      exact ⟨known, List.mem_cons_of_mem _ hknown, hread⟩
    · rintro ⟨known, hknown, hread⟩
      cases List.mem_cons.1 hknown with
      | inl heq => exact ⟨datagram, h, heq ▸ hread⟩
      | inr hmem => exact ⟨known, hmem, hread⟩
  | unreadable h => rw [responsesOf, responsesOf, List.filterMap_cons_none h]
  | trans _ _ hbefore hafter => exact hbefore.trans hafter

/-- Reading packets with the handler that keeps responses puts the responses behind those that were
kept before. -/
theorem readPackets_keepResponse (datagrams : List Bytes) (kept : List Response) :
    (readPackets keepResponse datagrams).run kept = (.ok (), kept ++ responsesOf datagrams) := by
  induction datagrams generalizing kept with
  | nil =>
    rw [responsesOf, List.filterMap_nil, List.append_nil]
    rfl
  | cons datagram rest ih =>
    rw [readPackets, StateT.run_bind, keepResponse, responsesOf]
    cases hread : Response.ofBytes? datagram with
    | none =>
      rw [List.filterMap_cons_none hread]
      exact ih kept
    | some response =>
      rw [List.filterMap_cons_some hread, ← List.singleton_append, ← List.append_assoc]
      exact ih (kept ++ [response])

/-- A request never fails, and its responses are those of the datagrams that arrive. -/
theorem request_eq (datagrams : List Bytes) : request datagrams = .ok (responsesOf datagrams) := by
  rw [request, readPackets_keepResponse]
  rfl

/-! ## What is found -/

/-- The keys of the services that are left are those that were not seen before. -/
theorem mem_keys_dropSeen (seen : List String) (services : List FoundService) (key : String) :
    key ∈ (dropSeen seen services).map FoundService.key ↔
      key ∉ seen ∧ key ∈ services.map FoundService.key := by
  induction services generalizing seen with
  | nil => simp [dropSeen]
  | cons service rest ih =>
    rw [dropSeen]
    by_cases hseen : service.key ∈ seen
    · rw [if_pos (List.contains_iff_mem.2 hseen), ih, List.map_cons, List.mem_cons]
      grind
    · rw [if_neg (mt List.contains_iff_mem.1 hseen), List.map_cons, List.mem_cons, ih,
        List.mem_cons, List.map_cons, List.mem_cons]
      grind

/-- No two services that are left have the same key. -/
theorem nodup_keys_dropSeen (seen : List String) (services : List FoundService) :
    ((dropSeen seen services).map FoundService.key).Nodup := by
  induction services generalizing seen with
  | nil => exact List.nodup_nil
  | cons service rest ih =>
    rw [dropSeen]
    split
    · exact ih seen
    · rw [List.map_cons, List.nodup_cons, mem_keys_dropSeen]
      exact ⟨fun h => h.1 List.mem_cons_self, ih (service.key :: seen)⟩

/-- Further services come behind those that are left of the earlier ones. -/
theorem dropSeen_prefix (seen : List String) (services more : List FoundService) :
    dropSeen seen services <+: dropSeen seen (services ++ more) := by
  induction services generalizing seen with
  | nil => exact List.nil_prefix
  | cons service rest ih =>
    rw [List.cons_append, dropSeen, dropSeen]
    split
    · exact ih seen
    · exact List.cons_prefix_cons.2 ⟨rfl, ih (service.key :: seen)⟩

/-- A key is found if one of the responses announces a service with it. -/
theorem mem_keys_found {key : String} :
    key ∈ (found searchType responses).map FoundService.key ↔
      ∃ response ∈ responses, ∃ service, Announces searchType response service ∧
        service.key = key := by
  rw [found, mem_keys_dropSeen]
  simp only [List.not_mem_nil, not_false_eq_true, true_and, List.mem_map, List.mem_filterMap,
    eligible?_eq_some_iff]
  constructor
  · rintro ⟨service, ⟨response, hresponse, hannounces⟩, hkey⟩
    exact ⟨response, hresponse, service, hannounces, hkey⟩
  · rintro ⟨response, hresponse, service, hannounces, hkey⟩
    exact ⟨service, ⟨response, hresponse, hannounces⟩, hkey⟩

/-- The same keys are found in the same responses, each of them once. -/
theorem keys_found_perm (searchType : String) {others : List Response}
    (h : ∀ response, response ∈ responses ↔ response ∈ others) :
    ((found searchType responses).map FoundService.key).Perm
      ((found searchType others).map FoundService.key) := by
  refine (List.perm_ext_iff_of_nodup (nodup_keys_dropSeen _ _) (nodup_keys_dropSeen _ _)).2 ?_
  intro key
  change key ∈ (found searchType responses).map _ ↔ key ∈ (found searchType others).map _
  rw [mem_keys_found, mem_keys_found]
  simp only [h]

/-- What is left of services is some of them, in their order. -/
theorem dropSeen_sublist (seen : List String) (services : List FoundService) :
    (dropSeen seen services).Sublist services := by
  induction services generalizing seen with
  | nil => exact List.Sublist.refl []
  | cons service rest ih =>
    rw [dropSeen]
    split
    · exact (ih seen).cons service
    · exact (ih (service.key :: seen)).cons_cons service

/-- A service that is found is announced by one of the responses. -/
theorem announces_of_mem_found {service : FoundService}
    (h : service ∈ found searchType responses) :
    ∃ response ∈ responses, Announces searchType response service := by
  have hmem := (dropSeen_sublist [] _).subset h
  obtain ⟨response, hresponse, hannounces⟩ := List.mem_filterMap.1 hmem
  exact ⟨response, hresponse, eligible?_eq_some_iff.1 hannounces⟩

/-- Whether a service of a name at a location is among others. -/
def Finds (services : List FoundService) (location : Url) (uniqueName : String) : Prop :=
  ∃ service ∈ services, service.location = location ∧ service.uniqueName = uniqueName

/-- A name is found at a location if one of the responses announces it there. -/
theorem finds_found_iff {location : Url} {uniqueName : String} :
    Finds (found searchType responses) location uniqueName ↔
      ∃ response ∈ responses, ∃ service, Announces searchType response service ∧
        service.location = location ∧ service.uniqueName = uniqueName := by
  constructor
  · rintro ⟨service, hservice, hplace⟩
    obtain ⟨response, hresponse, hannounces⟩ := announces_of_mem_found hservice
    exact ⟨response, hresponse, service, hannounces, hplace⟩
  · rintro ⟨response, hresponse, service, hannounces, rfl, rfl⟩
    -- The key of the service is found, and it tells the location and the name.
    have hkey : service.key ∈ (found searchType responses).map FoundService.key :=
      mem_keys_found.2 ⟨response, hresponse, service, hannounces, rfl⟩
    obtain ⟨first, hfirst, heq⟩ := List.mem_map.1 hkey
    obtain ⟨_, _, hfirstAnnounces⟩ := announces_of_mem_found hfirst
    exact ⟨first, hfirst, (key_eq_iff hfirstAnnounces.isRegular hannounces.isRegular).1 heq⟩

/-- A search never fails on what arrives, and finds the services of its responses. -/
theorem search_eq (searchType : String) (datagrams : List Bytes) :
    search searchType datagrams = .ok (found searchType (responsesOf datagrams)) := by
  rw [search, request_eq]
  rfl

/-- However datagrams are delivered, a search finds the same names at the same locations, and the
same number of services; and datagrams that arrive later leave the services found before where they
are. -/
theorem search_redelivered (searchType : String) :
    (∀ datagrams others, Redelivered datagrams others →
      ∃ services services', search searchType datagrams = .ok services ∧
        search searchType others = .ok services' ∧
        (∀ location uniqueName,
          Finds services location uniqueName ↔ Finds services' location uniqueName) ∧
        services.length = services'.length) ∧
    ∀ datagrams later, ∃ services services', search searchType datagrams = .ok services ∧
      search searchType (datagrams ++ later) = .ok services' ∧ services <+: services' := by
  constructor
  · intro datagrams others h
    refine ⟨_, _, search_eq searchType datagrams, search_eq searchType others, ?_, ?_⟩
    · intro location uniqueName
      simp only [finds_found_iff, h.mem_responsesOf_iff]
    · have hkeys := keys_found_perm searchType h.mem_responsesOf_iff
      simpa only [List.length_map] using hkeys.length_eq
  · intro datagrams later
    refine ⟨_, _, search_eq searchType datagrams, search_eq searchType (datagrams ++ later), ?_⟩
    rw [responsesOf, responsesOf, List.filterMap_append, found, found, List.filterMap_append]
    exact dropSeen_prefix [] _ _

/-- An answer that comes twice behind a datagram that is no response is found once, as if it came
alone. -/
theorem search_redelivered_echo :
    let answer :=
      Text.utf8Bytes "HTTP/1.1 200 OK\r\nST: t\r\nUSN: u\r\nLOCATION: http://h/\r\n\r\n"
    let noise := Text.utf8Bytes "NOTIFY * HTTP/1.1\r\n\r\n"
    Redelivered [answer] [noise, answer, answer] ∧
      (search "t" [answer]).toOption.map List.length = some 1 ∧
      ∃ services services', search "t" [answer] = .ok services ∧
        search "t" [noise, answer, answer] = .ok services' ∧
        (∀ location uniqueName,
          Finds services location uniqueName ↔ Finds services' location uniqueName) ∧
        services.length = services'.length := by
  intro answer noise
  have hnoise : Response.ofBytes? noise = none := by decide +kernel
  have h : Redelivered [answer] [noise, answer, answer] :=
    .trans (.repeated List.mem_cons_self) (.unreadable hnoise)
  exact ⟨h, by decide +kernel, (search_redelivered "t").1 _ _ h⟩

end NatGateway.Ssdp
