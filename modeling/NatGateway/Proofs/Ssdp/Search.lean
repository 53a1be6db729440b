import Mathlib.Data.List.Forall2
import NatGateway.Proofs.Url.Reader
import NatGateway.Ssdp.Search

/-!
# Found services

Which responses a search keeps. A response counts if it announces a service that was asked for, and
of the responses that announce one service the first is kept: services are the same if their
locations and their names are. Keys say exactly that, since the text of a location tells it and does
not hold the character that stands between the two parts of a key. A response that does not count
leaves no key behind.
-/

namespace NatGateway.Ssdp

/-! ## Responses that count -/

/-- Whether a response announces a service for a search: it is a success, its search type is the one
that was asked for unless the search asks for everything, and its location is a URL. The service
carries what the response says. -/
structure Announces (searchType : String) (response : Response) (service : FoundService) : Prop where
  status : response.status = 200
  asked : searchType = "ssdp:all" ∨ searchType = "upnp:rootdevice" ∨
    response.searchType = searchType
  location : Url.ofText response.location = .ok service.location
  searchType : service.searchType = response.searchType
  uniqueName : service.uniqueName = response.uniqueName
  server : service.server = response.server

variable {searchType : String} {responses : List Response} {response : Response}
  {service other : FoundService}

/-- A response is passed over unless the search asks for everything or for its type. -/
theorem passesOver_iff :
    (!asksForAll searchType && response.searchType != searchType) = false ↔
      searchType = "ssdp:all" ∨ searchType = "upnp:rootdevice" ∨
        response.searchType = searchType := by
  simp only [asksForAll, Bool.and_eq_false_iff, Bool.not_eq_false', Bool.or_eq_true,
    decide_eq_true_eq, bne_eq_false_iff_eq, or_assoc]

/-- A response is taken for the service that it announces. -/
theorem eligible?_eq_some_iff :
    eligible? searchType response = some service ↔ Announces searchType response service := by
  unfold eligible?
  constructor
  · intro h
    split at h
    · cases h
    · next hstatus =>
      split at h
      · cases h
      · next hasked =>
        split at h
        · next location hlocation =>
          cases h
          exact ⟨by simpa using hstatus, passesOver_iff.1 (Bool.eq_false_iff.2 hasked), hlocation,
            rfl, rfl, rfl⟩
        · cases h
  · rintro ⟨hstatus, hasked, hlocation, hsearchType, hname, hserver⟩
    have hstatus : ¬ (response.status != 200) = true := by simpa using hstatus
    rw [if_neg hstatus, if_neg (Bool.eq_false_iff.1 (passesOver_iff.2 hasked)), hlocation,
      ← hsearchType, ← hname, ← hserver]

/-! ## Keys -/

/-- The key of a service tells its location and its name. -/
theorem key_eq_iff (h : service.location.IsRegular) (hother : other.location.IsRegular) :
    service.key = other.key ↔
      service.location = other.location ∧ service.uniqueName = other.uniqueName := by
  have htoList : ∀ service : FoundService, service.key.toList =
      service.location.text.toList ++ '\x00' :: service.uniqueName.toList := by
    intro service
    simp [FoundService.key]
  constructor
  · intro hkey
    have hlists := congrArg String.toList hkey
    rw [htoList, htoList] at hlists
    obtain ⟨hlocation, hname⟩ := Text.append_separator_inj h.null_not_mem hother.null_not_mem hlists
    exact ⟨h.text_inj hother (String.toList_inj.1 hlocation), String.toList_inj.1 hname⟩
  · rintro ⟨hlocation, hname⟩
    rw [FoundService.key, FoundService.key, hlocation, hname]

/-- The location that a response announces is regular. -/
theorem Announces.isRegular (h : Announces searchType response service) :
    service.location.IsRegular :=
  Url.ofText_isRegular h.location

/-! ## Dropping what was seen -/

/-- The service that the response at a position announces, if there is a response and it counts. -/
def announced? (searchType : String) (responses : List Response) (i : Nat) : Option FoundService :=
  responses[i]?.bind (eligible? searchType)

/-- Whether the response at a position is kept while these keys were seen before: it counts, its key is
none of them, and no earlier response that counts has the same key. -/
def IsKept (seen : List String) (searchType : String) (responses : List Response) (i : Nat) : Prop :=
  ∃ service, announced? searchType responses i = some service ∧ service.key ∉ seen ∧
    ∀ j < i, ∀ earlier, announced? searchType responses j = some earlier →
      earlier.key ≠ service.key

/-- The first response is kept if it counts and its key was not seen before. -/
theorem isKept_zero {seen : List String} :
    IsKept seen searchType (response :: responses) 0 ↔
      ∃ service, eligible? searchType response = some service ∧ service.key ∉ seen := by
  constructor
  · rintro ⟨service, hservice, hseen, _⟩
    exact ⟨service, hservice, hseen⟩
  · rintro ⟨service, hservice, hseen⟩
    exact ⟨service, hservice, hseen, fun j hj => absurd hj (Nat.not_lt_zero j)⟩

/-- Behind a response that does not count the others are kept as without it. -/
theorem isKept_succ_of_none {seen : List String} (h : eligible? searchType response = none) (i : Nat) :
    IsKept seen searchType (response :: responses) (i + 1) ↔
      IsKept seen searchType responses i := by
  constructor
  · rintro ⟨service, hservice, hseen, hearlier⟩
    exact ⟨service, hservice, hseen, fun j hj => hearlier (j + 1) (Nat.succ_lt_succ hj)⟩
  · rintro ⟨service, hservice, hseen, hearlier⟩
    refine ⟨service, hservice, hseen, fun j hj earlier hannounced => ?_⟩
    cases j with
    | zero =>
      have hnone : announced? searchType (response :: responses) 0 = none := h
      rw [hnone] at hannounced
      cases hannounced
    | succ j => exact hearlier j (Nat.lt_of_succ_lt_succ hj) earlier hannounced

/-- Behind a response that counts the others are kept as if its key was seen before. -/
theorem isKept_succ_of_some {seen : List String} (h : eligible? searchType response = some service)
    (i : Nat) :
    IsKept seen searchType (response :: responses) (i + 1) ↔
      IsKept (service.key :: seen) searchType responses i := by
  have hfirst : announced? searchType (response :: responses) 0 = some service := h
  constructor
  · rintro ⟨later, hlater, hseen, hearlier⟩
    refine ⟨later, hlater, ?_, fun j hj => hearlier (j + 1) (Nat.succ_lt_succ hj)⟩
    rw [List.mem_cons, not_or]
    exact ⟨(hearlier 0 (Nat.succ_pos i) service hfirst).symm, hseen⟩
  · rintro ⟨later, hlater, hseen, hearlier⟩
    rw [List.mem_cons, not_or] at hseen
    refine ⟨later, hlater, hseen.2, fun j hj earlier hannounced => ?_⟩
    cases j with
    | zero =>
      rw [hfirst] at hannounced
      cases hannounced
      exact Ne.symm hseen.1
    | succ j => exact hearlier j (Nat.lt_of_succ_lt_succ hj) earlier hannounced

/-- A key that was seen before may be seen again. -/
theorem isKept_cons_of_mem {seen : List String} {key : String} (h : key ∈ seen) (i : Nat) :
    IsKept (key :: seen) searchType responses i ↔ IsKept seen searchType responses i := by
  have hmem : ∀ other, other ∈ key :: seen ↔ other ∈ seen := fun other =>
    ⟨fun hother => (List.mem_cons.1 hother).elim (fun heq => heq ▸ h) id, List.mem_cons_of_mem key⟩
  simp only [IsKept, hmem]

/-- Positions at which the services of responses stand, in ascending order. -/
structure ArePositionsOf (kept : Nat → Prop) (searchType : String) (responses : List Response)
    (services : List FoundService) (positions : List Nat) : Prop where
  ascending : positions.Pairwise (· < ·)
  kept : ∀ i, i ∈ positions ↔ kept i
  services : List.Forall₂ (fun i service => announced? searchType responses i = some service)
    positions services

/-- In front of a further response all positions are one higher. -/
theorem ArePositionsOf.skip {kept kept' : Nat → Prop} {services : List FoundService}
    {positions : List Nat} (h : ArePositionsOf kept searchType responses services positions)
    (hzero : ¬ kept' 0) (hsucc : ∀ i, kept' (i + 1) ↔ kept i) :
    ArePositionsOf kept' searchType (response :: responses) services (positions.map (· + 1)) := by
  refine ⟨List.pairwise_map.2 (h.ascending.imp Nat.succ_lt_succ), fun i => ?_,
    List.forall₂_map_left_iff.2 h.services⟩
  cases i with
  | zero => simpa using hzero
  | succ i => simp [hsucc, ← h.kept]

/-- A further response that is kept stands in front of the others. -/
theorem ArePositionsOf.keep {kept kept' : Nat → Prop} {services : List FoundService}
    {positions : List Nat} (h : ArePositionsOf kept searchType responses services positions)
    (hservice : eligible? searchType response = some service)
    (hzero : kept' 0) (hsucc : ∀ i, kept' (i + 1) ↔ kept i) :
    ArePositionsOf kept' searchType (response :: responses) (service :: services)
      (0 :: positions.map (· + 1)) := by
  refine ⟨List.pairwise_cons.2 ⟨?_, List.pairwise_map.2 (h.ascending.imp Nat.succ_lt_succ)⟩,
    fun i => ?_, .cons hservice (List.forall₂_map_left_iff.2 h.services)⟩
  · intro i hi
    obtain ⟨k, _, rfl⟩ := List.mem_map.1 hi
    exact Nat.succ_pos k
  · cases i with
    | zero => simpa using hzero
    | succ i => simp [hsucc, ← h.kept]

/-- What is left of the services of responses after those with keys that were seen before: the
services of the responses that are kept, in their order. -/
theorem dropSeen_positions (seen : List String) (searchType : String) (responses : List Response) :
    ∃ positions, ArePositionsOf (IsKept seen searchType responses) searchType responses
      (dropSeen seen (responses.filterMap (eligible? searchType))) positions := by
  -- Every service that is kept adds its key to those that were seen.
  induction responses generalizing seen with
  | nil =>
    refine ⟨[], .nil, fun i => ?_, .nil⟩
    simp [IsKept, announced?]
  | cons response rest ih =>
    cases hservice : eligible? searchType response with
    | none =>
      obtain ⟨positions, hpositions⟩ := ih seen
      rw [List.filterMap_cons_none hservice]
      refine ⟨_, hpositions.skip ?_ (isKept_succ_of_none hservice)⟩
      rw [isKept_zero, hservice]
      rintro ⟨service, h, _⟩
      cases h
    | some service =>
      rw [List.filterMap_cons_some hservice, dropSeen]
      by_cases hseen : service.key ∈ seen
      · obtain ⟨positions, hpositions⟩ := ih seen
        rw [if_pos (List.contains_iff_mem.2 hseen)]
        refine ⟨_, hpositions.skip ?_ fun i =>
          (isKept_succ_of_some hservice i).trans (isKept_cons_of_mem hseen i)⟩
        rw [isKept_zero, hservice]
        rintro ⟨_, h, hfresh⟩
        cases h
        exact hfresh hseen
      · obtain ⟨positions, hpositions⟩ := ih (service.key :: seen)
        rw [if_neg (mt List.contains_iff_mem.1 hseen)]
        exact ⟨_, hpositions.keep hservice (isKept_zero.2 ⟨service, hservice, hseen⟩)
          (isKept_succ_of_some hservice)⟩

/-! ## First responses -/

/-- Whether the response at a position is the first one that announces its service: it counts, and no
earlier response that counts has the same location and the same name. -/
def IsFirst (searchType : String) (responses : List Response) (i : Nat) : Prop :=
  ∃ response service, responses[i]? = some response ∧ Announces searchType response service ∧
    ∀ j < i, ∀ before earlier, responses[j]? = some before → Announces searchType before earlier →
      ¬ (earlier.location = service.location ∧ earlier.uniqueName = service.uniqueName)

/-- What is announced at a position is announced by the response there. -/
theorem announced?_eq_some_iff {i : Nat} :
    announced? searchType responses i = some service ↔
      ∃ response, responses[i]? = some response ∧ Announces searchType response service := by
  simp only [announced?, Option.bind_eq_some_iff, eligible?_eq_some_iff]

/-- Without keys that were seen before the first responses are kept. -/
theorem isKept_nil_iff (i : Nat) :
    IsKept [] searchType responses i ↔ IsFirst searchType responses i := by
  constructor
  · rintro ⟨service, hservice, _, hearlier⟩
    obtain ⟨response, hresponse, hannounces⟩ := announced?_eq_some_iff.1 hservice
    refine ⟨response, service, hresponse, hannounces, fun j hj before earlier hbefore hother => ?_⟩
    rw [← key_eq_iff hother.isRegular hannounces.isRegular]
    exact hearlier j hj earlier (announced?_eq_some_iff.2 ⟨before, hbefore, hother⟩)
  · rintro ⟨response, service, hresponse, hannounces, hearlier⟩
    refine ⟨service, announced?_eq_some_iff.2 ⟨response, hresponse, hannounces⟩, List.not_mem_nil,
      fun j hj earlier hother => ?_⟩
    obtain ⟨before, hbefore, hother⟩ := announced?_eq_some_iff.1 hother
    rw [Ne, key_eq_iff hother.isRegular hannounces.isRegular]
    exact hearlier j hj before earlier hbefore hother

/-- A search finds the services of the first responses, in the order in which these arrive. -/
theorem found_firsts (searchType : String) (responses : List Response) :
    ∃ positions : List Nat, positions.Pairwise (· < ·) ∧
      (∀ i, i ∈ positions ↔ IsFirst searchType responses i) ∧
      List.Forall₂ (fun i service => ∃ response, responses[i]? = some response ∧
          Announces searchType response service) positions (found searchType responses) := by
  obtain ⟨positions, hascending, hkept, hservices⟩ := dropSeen_positions [] searchType responses
  refine ⟨positions, hascending, fun i => (hkept i).trans (isKept_nil_iff i), ?_⟩
  exact hservices.imp fun i service h => announced?_eq_some_iff.1 h

end NatGateway.Ssdp
