import NatGateway.Proofs.Configuration.Reading
import NatGateway.Proofs.Mapping.Attempts
import NatGateway.Proofs.Mapping.Duration
import NatGateway.Ssdp.Request

/-!
# Settings that can be used

Whatever a document holds, the settings that are read from it can be used. A number is read as it is
denoted if it lies within its bounds, as the nearest bound if it does not, and as its default if nothing
is denoted at its path, where a value that cannot be reached or is of another kind denotes nothing. The
bounds come before the casts, so that no number is reduced to a smaller one.
-/

namespace NatGateway.Mapping

open NatGateway.Configuration
open NatGateway.Description (Root)
open NatGateway.Ssdp (SearchRequest)
open NatGateway.Wan (ServiceKind)
open NatGateway.Yaml (Value)

/-- Whether a number is what a document holds for a setting with these bounds. -/
structure IsRead (document : Value) (name : String) (default least most value : Nat) : Prop where
  exact : ∀ given n, find document (settingPath name) = .ok given → Denotes given n →
    least ≤ n → n ≤ most → value = n
  below : ∀ given n, find document (settingPath name) = .ok given → Denotes given n →
    n < least → value = least
  above : ∀ given n, find document (settingPath name) = .ok given → Denotes given n →
    most < n → value = most
  default : (∀ given n, find document (settingPath name) = .ok given → ¬ Denotes given n) →
    value = default

/-- Whether settings are what a document holds, and can be used. -/
structure ExactSettings.IsUsable (document : Value) (settings : ExactSettings) : Prop where
  searchWait : ∃ n, settings.searchWait = .ofSeconds n ∧ 1 ≤ n ∧
    IsRead document "search_wait_secs" 1 1 (Nat.pow 2 64 - 1) n
  multicastTtl : settings.multicastTtl.toNat ≤ 255 ∧
    IsRead document "multicast_ttl" 2 0 255 settings.multicastTtl.toNat
  descriptionTimeout : ∃ n, settings.descriptionTimeout = .ofMilliseconds n ∧
    IsRead document "description_timeout_ms" 3000 0 (Nat.pow 2 64 - 1) n
  soapTimeout : ∃ n, settings.soapTimeout = .ofMilliseconds n ∧
    IsRead document "soap_timeout_ms" 10000 0 (Nat.pow 2 64 - 1) n
  attempts : 1 ≤ settings.attempts.toNat ∧
    IsRead document "port_mapping_attempts" 3 1 (Nat.pow 2 32 - 1) settings.attempts.toNat
  retryBackoff : ∃ n, settings.retryBackoff = .ofMilliseconds n ∧
    IsRead document "retry_backoff_ms" 50 0 (Nat.pow 2 64 - 1) n
  fallbackGrace : ∃ n, settings.fallbackGrace = .ofMilliseconds n ∧
    IsRead document "fallback_grace_ms" 300 0 (Nat.pow 2 64 - 1) n
  description : settings.description ≠ ""

variable {document : Value} {name : String} {default least most : Nat}

/-! ## Numbers -/

/-- A number that is bounded after it was read is what the document holds. -/
theorem isRead_bound (bound : Nat → Nat)
    (hexact : ∀ n, least ≤ n → n ≤ most → bound n = n) (hbelow : ∀ n < least, bound n = least)
    (habove : ∀ n < Nat.pow 2 64, most < n → bound n = most) (hdefault : bound default = default) :
    IsRead document name default least most
      (bound (readUnsigned document (settingPath name) default).1) where
  exact given n hfind h hleast hmost := by
    rw [readUnsigned_of_denotes hfind h]
    exact hexact n hleast hmost
  below given n hfind h hlt := by
    rw [readUnsigned_of_denotes hfind h]
    exact hbelow n hlt
  above given n hfind h hlt := by
    rw [readUnsigned_of_denotes hfind h]
    exact habove n h.lt hlt
  default h := by
    rw [readUnsigned_of_not_denotes h]
    exact hdefault

/-- A number that may be any of 64 bits is what the document holds. -/
theorem isRead_readUnsigned : IsRead document name default 0 (Nat.pow 2 64 - 1)
    (readUnsigned document (settingPath name) default).1 := by
  refine isRead_bound id (fun _ _ _ => rfl) nofun (fun n hn hlt => ?_) rfl
  exact absurd hlt (Nat.not_lt.2 (Nat.le_sub_one_of_lt hn))

/-- A cast keeps what was bounded before by a word. -/
theorem toNat_ofNat_min (h : most < Nat.pow 2 32) (n : Nat) :
    (UInt32.ofNat (min n most)).toNat = min n most :=
  UInt32.toNat_ofNat_of_lt' (Nat.lt_of_le_of_lt (Nat.min_le_right n most) h)

/-! ## Settings -/

/-- The settings that are read from a document are what it holds. -/
theorem isUsable_ofDocument (document : Value) :
    ExactSettings.IsUsable document (ExactSettings.ofDocument document).1 where
  searchWait := by
    refine ⟨_, Duration.ofMilliseconds_mul _, Nat.le_max_right _ 1, ?_⟩
    exact isRead_bound (max · 1) (by omega) (by omega) (by omega) rfl
  multicastTtl := by
    have httl : (ExactSettings.ofDocument document).1.multicastTtl.toNat =
        min (readUnsigned document (settingPath "multicast_ttl") 2).1 255 :=
      toNat_ofNat_min (by decide) _
    rw [httl]
    exact ⟨Nat.min_le_right _ 255, isRead_bound (min · 255) (by omega) nofun (by omega) rfl⟩
  descriptionTimeout := ⟨_, rfl, isRead_readUnsigned⟩
  soapTimeout := ⟨_, rfl, isRead_readUnsigned⟩
  attempts := by
    have hattempts : (ExactSettings.ofDocument document).1.attempts.toNat =
        min (max (readUnsigned document (settingPath "port_mapping_attempts") 3).1 1)
          (Nat.pow 2 32 - 1) := toNat_ofNat_min (by decide) _
    have hmost : 1 ≤ Nat.pow 2 32 - 1 := by decide
    rw [hattempts]
    refine ⟨Nat.le_min.2 ⟨Nat.le_max_right _ 1, hmost⟩, ?_⟩
    exact isRead_bound (fun n => min (max n 1) (Nat.pow 2 32 - 1)) (by omega) (by omega) (by omega) rfl
  retryBackoff := ⟨_, rfl, isRead_readUnsigned⟩
  fallbackGrace := ⟨_, rfl, isRead_readUnsigned⟩
  description := readText_ne_empty (by decide)

/-- The seconds of a search are those of its wait, one at least and the largest word at most. -/
theorem ExactSettings.toNat_searchSeconds (settings : ExactSettings) :
    settings.searchSeconds.toNat = min (max settings.searchWait.seconds 1) (Nat.pow 2 32 - 1) :=
  toNat_ofNat_min (by decide) _

/-- A search with the seconds of settings waits a second at least. -/
theorem ExactSettings.one_le_searchSeconds (settings : ExactSettings) : 1 ≤ settings.searchSeconds.toNat := by
  rw [toNat_searchSeconds]
  exact Nat.le_min.2 ⟨Nat.le_max_right _ 1, by decide⟩

/-- A search with the seconds of settings is never refused. -/
theorem ExactSettings.make_searchSeconds (settings : ExactSettings) (type : String) :
    SearchRequest.make type settings.searchSeconds.toNat =
      .ok ⟨type, settings.searchSeconds.toNat⟩ := by
  rw [SearchRequest.make, if_neg (Nat.not_lt.2 settings.one_le_searchSeconds)]

/-- Once a request is prepared a client is asked for the mapping, before anything else. -/
theorem addMapping_asks {σ : Type} (gateway : MappingGateway) (client : MappingClient σ)
    {machine : Machine} {protocol description : String} {internalPort externalPort : UInt16}
    {lease : UInt32} {request : MappingRequest}
    (h : gateway.preparedRequest machine protocol internalPort externalPort lease description =
      .ok request) (state : σ) :
    ∃ further, ((gateway.addMapping client.noting machine protocol internalPort externalPort lease
      description).run ([], state)).2.1 = .add request :: further := by
  obtain ⟨last, warnings, _, hrun⟩ := MappingGateway.addMapping_run gateway client.noting h ([], state)
  refine ⟨List.replicate last (.add request), ?_⟩
  rw [hrun, MappingClient.stateAfter_noting, List.nil_append, List.replicate_succ]

/-- The settings of any document can be used. Each of them is what the document holds or its default, no
search with them is refused, and a gateway with them makes at least one attempt to add a mapping once it
has the request for one. -/
theorem usable_of_document (document : Value) :
    let settings := (ExactSettings.ofDocument document).1
    settings.IsUsable document ∧
    (∀ any : ExactSettings, 1 ≤ any.searchSeconds.toNat ∧
      any.searchSeconds.toNat = min (max any.searchWait.seconds 1) (Nat.pow 2 32 - 1) ∧
      ∀ type, ∃ request, SearchRequest.make type any.searchSeconds.toNat = .ok request) ∧
    ∀ (kind : ServiceKind) (root : Root),
      let gateway := MappingGateway.ofRoot kind root settings.whole
      gateway.attempts = settings.attempts.toNat ∧
      ∀ (σ : Type) (client : MappingClient σ) (state : σ) machine protocol internalPort externalPort lease
        description request,
        gateway.preparedRequest machine protocol internalPort externalPort lease description =
          .ok request →
        ∃ further, ((gateway.addMapping client.noting machine protocol internalPort externalPort lease
          description).run ([], state)).2.1 = .add request :: further := by
  intro settings
  have husable : settings.IsUsable document := isUsable_ofDocument document
  refine ⟨husable, fun any => ?_, ?_⟩
  · exact ⟨any.one_le_searchSeconds, any.toNat_searchSeconds, fun type => ⟨_, any.make_searchSeconds type⟩⟩
  · intro kind root gateway
    refine ⟨Nat.max_eq_left husable.attempts.1, ?_⟩
    intro σ client state machine protocol internalPort externalPort lease description request hprepared
    exact addMapping_asks gateway client hprepared state

/-- A section with values of all kinds: `2 ^ 32` is not reduced to zero as a number of seconds or of
attempts, and what denotes no number is replaced. -/
theorem usable_of_document_mixed :
    let document : Value := .mapping [(.string "nat", .mapping [
      (.string "search_wait_secs", .number (.integer 4294967296)),
      (.string "multicast_ttl", .string "1e3"),
      (.string "description_timeout_ms", .number (.integer (-1))),
      (.string "soap_timeout_ms", .sequence [.number (.integer 1)]),
      (.string "port_mapping_attempts", .string " +4294967296 "),
      (.string "retry_backoff_ms", .number (.integer 18446744073709551616)),
      (.string "fallback_grace_ms", .string "0250"),
      (.string "mapping_description", .string "")])]
    let settings := (ExactSettings.ofDocument document).1
    settings.IsUsable document ∧
      settings = ⟨.ofSeconds 4294967296, 2, .ofSeconds 3, .ofSeconds 10, 4294967295,
        .ofMilliseconds 50, .ofMilliseconds 250, "pmonat"⟩ ∧
      settings.searchSeconds = 4294967295 := by
  intro document settings
  exact ⟨(usable_of_document document).1, by decide +kernel, by decide +kernel⟩

end NatGateway.Mapping
