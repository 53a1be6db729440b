import NatGateway.Mapping.Preferences
import NatGateway.Proofs.Configuration.Accesses
import NatGateway.Proofs.Configuration.Persistence
import NatGateway.Proofs.Configuration.Reading

/-!
# Settings read while they are written

Settings are written one by one, and read one by one in another order, so that settings which are
read while others are written may be some of the old and some of the new ones. Each number and the
description is one of both; and as the number of attempts is the first to be read and the fifth to be
written, those that are written before it are new if it is. Nothing else is kept from mixing.
-/

namespace NatGateway.Mapping

open NatGateway.Configuration
open NatGateway.Yaml (Value)

variable {format : Format} {store : Store} {document before after : Value} {path : List String}
  {name text : String} {number default place count : Nat} {counts : List Nat} {m n : Settings}

/-! ## Reading -/

/-- The settings that are read when each of them is looked up in a document of its own. -/
def Settings.readFrom (documentOf : String → Value) : Settings :=
  let standard := Settings.standard
  let read (name : String) (default : Nat) : Nat :=
    (readUnsigned (documentOf name) (settingPath name) default).1
  { searchWait := max (read "search_wait_secs" standard.searchSeconds) 1 * 1000
    multicastTtl := min (read "multicast_ttl" standard.multicastTtl) 255
    descriptionTimeout := read "description_timeout_ms" standard.descriptionTimeout
    soapTimeout := read "soap_timeout_ms" standard.soapTimeout
    attempts := min (max (read "port_mapping_attempts" standard.attempts) 1) (Nat.pow 2 32 - 1)
    retryBackoff := read "retry_backoff_ms" standard.retryBackoff
    fallbackGrace := read "fallback_grace_ms" standard.fallbackGrace
    description := readText (documentOf "mapping_description") (settingPath "mapping_description")
      standard.description }

/-- The settings of a document are read when all of them are looked up in it. -/
theorem ofDocument_eq_readFrom (document : Value) :
    (Settings.ofDocument document).1 = Settings.readFrom fun _ => document := rfl

/-- The paths of the settings, in the order in which they are looked up. -/
def readPaths : List (List String) :=
  ["port_mapping_attempts", "search_wait_secs", "multicast_ttl", "description_timeout_ms",
    "soap_timeout_ms", "retry_backoff_ms", "fallback_grace_ms", "mapping_description"].map settingPath

/-- The updates that write settings, in the order in which they are made. -/
def Settings.updates (settings : Settings) : List Update :=
  settings.entries.map fun entry => (settingPath entry.1, entry.2)

/-- What was met in looking up a setting. -/
def documentIn (found : List (List String × Value)) (name : String) : Value :=
  (found.lookup (settingPath name)).getD .null

/-- Settings that are all looked up in one document are those of that document. -/
theorem readFrom_documentIn (document : Value) :
    Settings.readFrom (documentIn (readPaths.map (·, document))) = (Settings.ofDocument document).1 := rfl

/-- A number reads as before where the document does. -/
theorem readUnsigned_congr (h : ReadsAs (find before path) (find after path)) :
    readUnsigned after path default = readUnsigned before path default := by
  rcases h with hsame | ⟨shown, further, hbefore, hafter, _⟩
  · rw [readUnsigned, readUnsigned, hsame]
  · rw [readUnsigned, readUnsigned, hbefore, hafter]

/-- A text reads as before where the document does. -/
theorem readText_congr (h : ReadsAs (find before path) (find after path)) :
    readText after path text = readText before path text := by
  rcases h with hsame | ⟨shown, further, hbefore, hafter, _⟩
  · rw [readText, readText, hsame]
  · rw [readText, readText, hbefore, hafter]

/-- A number of 64 bits is read as it was written. -/
theorem readUnsigned_of_find (h : find document path = .ok (numberValue number))
    (hnumber : number < Nat.pow 2 64) : (readUnsigned document path default).1 = number := by
  rw [numberValue, Nat.mod_eq_of_lt hnumber] at h
  exact readUnsigned_of_denotes h (.number hnumber)

/-- A text that is not empty is read as it was written. -/
theorem readText_of_find {other : String} (h : find document path = .ok (.string text))
    (htext : text.isEmpty = false) : readText document path other = text := by
  rw [readText, h]
  simp only [htext, Bool.false_eq_true, if_false]

/-! ## Settings that are kept -/

/-- Settings that are read as they were written: whole seconds, numbers in range, at least one second
and one attempt, and a description. -/
structure Settings.IsRegular (settings : Settings) : Prop where
  searchWait : ∃ seconds, 1 ≤ seconds ∧ seconds < Nat.pow 2 64 ∧ settings.searchWait = seconds * 1000
  multicastTtl : settings.multicastTtl ≤ 255
  descriptionTimeout : settings.descriptionTimeout < Nat.pow 2 64
  soapTimeout : settings.soapTimeout < Nat.pow 2 64
  attempts : 1 ≤ settings.attempts ∧ settings.attempts < Nat.pow 2 32
  retryBackoff : settings.retryBackoff < Nat.pow 2 64
  fallbackGrace : settings.fallbackGrace < Nat.pow 2 64
  description : settings.description.isEmpty = false

/-- The paths of settings are apart. -/
theorem areApart_updates (settings : Settings) : AreApart settings.updates := by
  have hpaths : (settings.updates.map Prod.fst).Pairwise Apart := by
    change (List.map settingPath ["search_wait_secs", "multicast_ttl", "description_timeout_ms",
      "soap_timeout_ms", "port_mapping_attempts", "retry_backoff_ms", "fallback_grace_ms",
      "mapping_description"]).Pairwise Apart
    decide +kernel
  exact List.pairwise_map.1 hpaths

/-- Something is in the way of one setting if it is in the way of every other one. -/
theorem isBlocked_settingPath_iff {other : String} :
    IsBlocked document (settingPath name) ↔ IsBlocked document (settingPath other) := by
  obtain ⟨entries, rfl⟩ | hleaf := Value.mapping_or_leaf document
  · have hsection : ∀ name next, IsBlocked next [name] ↔ ∀ entries, next ≠ .mapping entries := by
      intro name next
      obtain ⟨entries, rfl⟩ | hleaf := Value.mapping_or_leaf next
      · simp [isBlocked_mapping_iff, not_isBlocked_nil]
      · exact iff_of_true (isBlocked_leaf hleaf) hleaf
    simp only [settingPath, isBlocked_mapping_iff, hsection]
  · exact iff_of_true (isBlocked_leaf hleaf) (isBlocked_leaf hleaf)

/-- Which of the settings are read as they are written. -/
structure Seen where
  searchWait : Bool
  multicastTtl : Bool
  descriptionTimeout : Bool
  soapTimeout : Bool
  attempts : Bool
  retryBackoff : Bool
  fallbackGrace : Bool
  description : Bool
deriving DecidableEq

/-- Whether settings can be read so: those that are written before the number of attempts are new if
it is. -/
def Seen.IsPossible (seen : Seen) : Prop :=
  seen.attempts = true → seen.searchWait = true ∧ seen.multicastTtl = true ∧
    seen.descriptionTimeout = true ∧ seen.soapTimeout = true

/-- Some settings of one kind and the others of another. -/
def Settings.mixed (m n : Settings) (seen : Seen) : Settings where
  searchWait := if seen.searchWait then n.searchWait else m.searchWait
  multicastTtl := if seen.multicastTtl then n.multicastTtl else m.multicastTtl
  descriptionTimeout := if seen.descriptionTimeout then n.descriptionTimeout else m.descriptionTimeout
  soapTimeout := if seen.soapTimeout then n.soapTimeout else m.soapTimeout
  attempts := if seen.attempts then n.attempts else m.attempts
  retryBackoff := if seen.retryBackoff then n.retryBackoff else m.retryBackoff
  fallbackGrace := if seen.fallbackGrace then n.fallbackGrace else m.fallbackGrace
  description := if seen.description then n.description else m.description

/-- None of the settings. -/
def Seen.nothing : Seen := ⟨false, false, false, false, false, false, false, false⟩

/-- Where none is new the settings are the old ones. -/
theorem mixed_nothing (m n : Settings) : m.mixed n .nothing = m := rfl

/-! ## Reading while settings are written -/

/-- A number that is looked up after some of the settings have been written: the written one if it is
among them. -/
theorem readUnsigned_run_take (change : Nat → Nat) {kept : Nat}
    (hwrite : n.updates[place]? = some (settingPath name, numberValue number))
    (hnumber : number < Nat.pow 2 64) (hkept : change number = kept)
    (hfree : ¬ IsBlocked document (settingPath name)) :
    change (readUnsigned (run (n.updates.take count) document) (settingPath name) default).1 =
      if decide (place < count) = true then kept
      else change (readUnsigned document (settingPath name) default).1 := by
  by_cases hlt : place < count
  · have hfind := find_run_take_of_lt (areApart_updates n) hwrite hlt hfree
    rw [readUnsigned_of_find hfind hnumber, if_pos (decide_eq_true hlt), hkept]
  · have hreads : ReadsAs (find document (settingPath name))
        (find (run (n.updates.take count) document) (settingPath name)) :=
      readsAs_run_take_of_le (areApart_updates n) hwrite (Nat.le_of_not_lt hlt)
    rw [readUnsigned_congr hreads, if_neg (by simpa using hlt)]

/-- The description that is looked up after some of the settings have been written. -/
theorem readText_run_take (hn : n.IsRegular)
    (hfree : ¬ IsBlocked document (settingPath "mapping_description")) :
    readText (run (n.updates.take count) document) (settingPath "mapping_description") text =
      if decide (7 < count) = true then n.description
      else readText document (settingPath "mapping_description") text := by
  have hwrite : n.updates[7]? = some (settingPath "mapping_description", .string n.description) := rfl
  by_cases hlt : 7 < count
  · have hfind := find_run_take_of_lt (areApart_updates n) hwrite hlt hfree
    rw [readText_of_find hfind hn.description, if_pos (decide_eq_true hlt)]
  · have hreads : ReadsAs (find document (settingPath "mapping_description"))
        (find (run (n.updates.take count) document) (settingPath "mapping_description")) :=
      readsAs_run_take_of_le (areApart_updates n) hwrite (Nat.le_of_not_lt hlt)
    rw [readText_congr hreads, if_neg (by simpa using hlt)]

/-- Which settings are new when so many of them have been written at each look-up. -/
def Seen.ofCounts : List Nat → Seen
  | [attempts, searchWait, ttl, description, soap, backoff, grace, text] =>
      ⟨decide (0 < searchWait), decide (1 < ttl), decide (2 < description), decide (3 < soap),
        decide (4 < attempts), decide (5 < backoff), decide (6 < grace), decide (7 < text)⟩
  | _ => .nothing

/-- Settings that are looked up one by one while others are written are a mixture of both. -/
theorem readFrom_metAfter (hn : n.IsRegular) (hm : (Settings.ofDocument document).1 = m)
    (hfree : ∀ name, ¬ IsBlocked document (settingPath name)) (hlength : counts.length = 8) :
    Settings.readFrom (documentIn (metAfter n.updates document readPaths counts)) =
      m.mixed n (.ofCounts counts) := by
  match counts, hlength with
  | [k₁, k₂, k₃, k₄, k₅, k₆, k₇, k₈], _ =>
    subst hm
    obtain ⟨seconds, hleast, hmost, hseconds⟩ := hn.searchWait
    rw [Settings.readFrom, Settings.mixed, Settings.mk.injEq]
    refine ⟨?_, ?_, ?_, ?_, ?_, ?_, ?_, ?_⟩
    case refine_1 =>
      have hwrite : n.updates[0]? =
          some (settingPath "search_wait_secs", numberValue (n.searchWait / 1000)) := rfl
      refine readUnsigned_run_take (fun number => max number 1 * 1000) hwrite ?_ ?_ (hfree _)
      · omega
      · omega
    case refine_2 =>
      have hwrite : n.updates[1]? =
          some (settingPath "multicast_ttl", numberValue n.multicastTtl) := rfl
      have hrange := hn.multicastTtl
      refine readUnsigned_run_take (fun number => min number 255) hwrite ?_ ?_ (hfree _)
      · exact Nat.lt_of_le_of_lt hrange (by decide)
      · exact Nat.min_eq_left hrange
    case refine_3 =>
      have hwrite : n.updates[2]? =
          some (settingPath "description_timeout_ms", numberValue n.descriptionTimeout) := rfl
      exact readUnsigned_run_take id hwrite hn.descriptionTimeout rfl (hfree _)
    case refine_4 =>
      have hwrite : n.updates[3]? =
          some (settingPath "soap_timeout_ms", numberValue n.soapTimeout) := rfl
      exact readUnsigned_run_take id hwrite hn.soapTimeout rfl (hfree _)
    case refine_5 =>
      have hwrite : n.updates[4]? =
          some (settingPath "port_mapping_attempts", numberValue n.attempts) := rfl
      obtain ⟨hone, hrange⟩ := hn.attempts
      refine readUnsigned_run_take (fun number => min (max number 1) (Nat.pow 2 32 - 1)) hwrite ?_ ?_
        (hfree _)
      · exact Nat.lt_trans hrange (by decide)
      · rw [Nat.max_eq_left hone, Nat.min_eq_left (Nat.le_sub_one_of_lt hrange)]
    case refine_6 =>
      have hwrite : n.updates[5]? =
          some (settingPath "retry_backoff_ms", numberValue n.retryBackoff) := rfl
      exact readUnsigned_run_take id hwrite hn.retryBackoff rfl (hfree _)
    case refine_7 =>
      have hwrite : n.updates[6]? =
          some (settingPath "fallback_grace_ms", numberValue n.fallbackGrace) := rfl
      exact readUnsigned_run_take id hwrite hn.fallbackGrace rfl (hfree _)
    case refine_8 => exact readText_run_take hn (hfree _)

/-- Where something is in the way nothing is written, and what is read is what was there. -/
theorem readFrom_metAfter_of_isBlocked (hm : (Settings.ofDocument document).1 = m)
    (hblocked : ∀ name, IsBlocked document (settingPath name)) (hlength : counts.length = 8) :
    Settings.readFrom (documentIn (metAfter n.updates document readPaths counts)) = m := by
  have hsame : ∀ count, run (n.updates.take count) document = document := by
    intro count
    refine run_of_isBlocked fun update hupdate => ?_
    obtain ⟨entry, _, rfl⟩ := List.mem_map.1 (List.mem_of_mem_take hupdate)
    exact hblocked entry.1
  rw [metAfter_of_forall hlength fun count _ => hsame count, readFrom_documentIn, hm]

/-- What is new when so many settings have been written at each look-up can be new, if none of the
numbers is less than the one before. -/
theorem isPossible_ofCounts (hlength : counts.length = 8) (hordered : counts.Pairwise (· ≤ ·)) :
    (Seen.ofCounts counts).IsPossible := by
  match counts, hlength with
  | [attempts, searchWait, ttl, description, soap, _, _, _], _ =>
    intro hattempts
    obtain ⟨hleast, _⟩ := List.pairwise_cons.1 hordered
    simp only [List.forall_mem_cons] at hleast
    obtain ⟨hsearchWait, httl, hdescription, hsoap, _⟩ := hleast
    have hfive : 4 < attempts := of_decide_eq_true hattempts
    refine ⟨decide_eq_true ?_, decide_eq_true ?_, decide_eq_true ?_, decide_eq_true ?_⟩ <;> omega

/-- The least numbers of written settings at each look-up with which at least these are new. -/
def Seen.leastCounts (seen : Seen) : List Nat :=
  let attempts := if seen.attempts then 5 else 0
  let searchWait := max attempts (if seen.searchWait then 1 else 0)
  let ttl := max searchWait (if seen.multicastTtl then 2 else 0)
  let description := max ttl (if seen.descriptionTimeout then 3 else 0)
  let soap := max description (if seen.soapTimeout then 4 else 0)
  let backoff := max soap (if seen.retryBackoff then 6 else 0)
  let grace := max backoff (if seen.fallbackGrace then 7 else 0)
  let text := max grace (if seen.description then 8 else 0)
  [attempts, searchWait, ttl, description, soap, backoff, grace, text]

/-- For all settings that can be new there are numbers of settings written at each look-up. -/
theorem areCounts_leastCounts (n : Settings) {seen : Seen} (h : seen.IsPossible) :
    AreCounts n.updates readPaths seen.leastCounts ∧ Seen.ofCounts seen.leastCounts = seen := by
  have hall : ∀ wait ttl description soap attempts backoff grace text : Bool,
      let seen : Seen := ⟨wait, ttl, description, soap, attempts, backoff, grace, text⟩
      (attempts = true → wait = true ∧ ttl = true ∧ description = true ∧ soap = true) →
        seen.leastCounts.length = 8 ∧ seen.leastCounts.Pairwise (· ≤ ·) ∧
          (∀ count ∈ seen.leastCounts, count ≤ 8) ∧ Seen.ofCounts seen.leastCounts = seen := by
    decide +kernel
  obtain ⟨wait, ttl, description, soap, attempts, backoff, grace, text⟩ := seen
  obtain ⟨hlength, hordered, hbounded, hseen⟩ :=
    hall wait ttl description soap attempts backoff grace text h
  exact ⟨⟨hlength, hordered, hbounded⟩, hseen⟩

/-- Settings that are new where they can be are read in some order of the look-ups and the writing of
the others. -/
theorem exists_readFrom_mixed (hn : n.IsRegular)
    (hm : (Settings.ofDocument store.configuration.document).1 = m)
    (hfree : ¬ IsBlocked store.configuration.document (settingPath "mapping_description"))
    {seen : Seen} (hseen : seen.IsPossible) : ∃ trace, Concurrent n.updates readPaths trace ∧
      Settings.readFrom (documentIn (met format trace store)) = m.mixed n seen := by
  obtain ⟨hcounts, hsame⟩ := areCounts_leastCounts n hseen
  obtain ⟨trace, htrace, hmet⟩ := exists_concurrent hcounts
  refine ⟨trace, htrace, ?_⟩
  rw [hmet, ← congrArg (Settings.mixed m n) hsame]
  exact readFrom_metAfter hn hm (fun _ => mt isBlocked_settingPath_iff.1 hfree) hcounts.length_eq

/-! ## A mixture -/

/-- Settings with a longer wait and a larger number of hops. -/
def wider : Settings := { Settings.standard with searchWait := 5000, multicastTtl := 7 }

/-- These settings are read as they were written. -/
theorem isRegular_wider : wider.IsRegular :=
  ⟨⟨5, by decide⟩, by decide, by decide, by decide, by decide, by decide, by decide, by decide⟩

/-- Nothing is in the way of the settings in the document that is loaded beside the defaults. -/
theorem not_isBlocked_hostDocument :
    ¬ IsBlocked hostDocument (settingPath "mapping_description") := by
  obtain ⟨after, hafter⟩ : ∃ after,
      (update hostDocument (settingPath "mapping_description") .null).toOption = some after :=
    Option.isSome_iff_exists.1 (by decide +kernel)
  exact exists_update_iff.1 ⟨after, toOption_eq_some_iff.1 hafter⟩

/-- The settings of that document are the standard ones. -/
theorem ofDocument_hostDocument : (Settings.ofDocument hostDocument).1 = Settings.standard := by
  decide +kernel

/-- While settings with a longer wait and a larger number of hops are written over the standard ones,
settings may be read that are neither, with the longer wait and the old number of hops. -/
theorem readFrom_neither : ∃ opened trace,
    (load yaml "cfg").runFrom hostSystem = (.ok ⟨"cfg", hostDocument⟩, opened) ∧
    (Settings.ofDocument hostDocument).1 = Settings.standard ∧
    Settings.standard.IsRegular ∧ wider.IsRegular ∧ Concurrent wider.updates readPaths trace ∧
    Settings.readFrom (documentIn (met yaml trace ⟨opened, ⟨"cfg", hostDocument⟩⟩)) ≠
      Settings.standard ∧
    Settings.readFrom (documentIn (met yaml trace ⟨opened, ⟨"cfg", hostDocument⟩⟩)) ≠ wider := by
  obtain ⟨opened, _, hload, _⟩ := exists_load_hostSystem
  have hstandard : Settings.standard.IsRegular :=
    ⟨⟨1, by decide⟩, by decide, by decide, by decide, by decide, by decide, by decide, by decide⟩
  obtain ⟨trace, htrace, hread⟩ : ∃ trace, Concurrent wider.updates readPaths trace ∧
      Settings.readFrom (documentIn (met yaml trace ⟨opened, ⟨"cfg", hostDocument⟩⟩)) =
        Settings.standard.mixed wider { Seen.nothing with searchWait := true } :=
    @exists_readFrom_mixed yaml ⟨opened, ⟨"cfg", hostDocument⟩⟩ Settings.standard wider isRegular_wider
      ofDocument_hostDocument not_isBlocked_hostDocument _ nofun
  refine ⟨opened, trace, hload, ofDocument_hostDocument, hstandard, isRegular_wider, htrace, ?_, ?_⟩
  · rw [hread]
    decide
  · rw [hread]
    decide

/-! ## All mixtures -/

/-- Settings that are looked up one by one while others are written one by one, all or the first of
them, are a mixture of the old and the new ones: the number of attempts is new only if all settings
are that are written before it. Where nothing is in the way of the settings, every such mixture is
read in some order of the accesses. -/
theorem readFrom_concurrent (hn : n.IsRegular)
    (hm : (Settings.ofDocument store.configuration.document).1 = m) :
    (∀ writes trace, writes <+: n.updates → Concurrent writes readPaths trace →
      ∃ seen : Seen, seen.IsPossible ∧
        Settings.readFrom (documentIn (met format trace store)) = m.mixed n seen) ∧
    (¬ IsBlocked store.configuration.document (settingPath "mapping_description") →
      ∀ seen : Seen, seen.IsPossible → ∃ trace, Concurrent n.updates readPaths trace ∧
        Settings.readFrom (documentIn (met format trace store)) = m.mixed n seen) := by
  refine ⟨fun writes trace hwrites htrace => ?_, fun hfree seen hseen =>
    exists_readFrom_mixed hn hm hfree hseen⟩
  obtain ⟨counts, hcounts, hmet⟩ := met_of_concurrent htrace
  rw [hmet, metAfter_of_prefix hwrites hcounts.bounded]
  by_cases hblocked : IsBlocked store.configuration.document (settingPath "mapping_description")
  · refine ⟨.nothing, fun h => absurd h Bool.false_ne_true, ?_⟩
    rw [mixed_nothing]
    exact readFrom_metAfter_of_isBlocked hm (fun _ => isBlocked_settingPath_iff.1 hblocked)
      hcounts.length_eq
  · refine ⟨.ofCounts counts, isPossible_ofCounts hcounts.length_eq hcounts.ordered, ?_⟩
    exact readFrom_metAfter hn hm (fun _ => mt isBlocked_settingPath_iff.1 hblocked) hcounts.length_eq

/-- While those settings are written over the standard ones, the standard ones with the longer wait may
be read, and in every case settings with the old time for answers. -/
theorem readFrom_concurrent_wider : ∃ opened,
    (load yaml "cfg").runFrom hostSystem = (.ok ⟨"cfg", hostDocument⟩, opened) ∧
    (∃ trace, Concurrent wider.updates readPaths trace ∧
      Settings.readFrom (documentIn (met yaml trace ⟨opened, ⟨"cfg", hostDocument⟩⟩)) =
        { Settings.standard with searchWait := 5000 }) ∧
    ∀ trace, Concurrent wider.updates readPaths trace →
      (Settings.readFrom
        (documentIn (met yaml trace ⟨opened, ⟨"cfg", hostDocument⟩⟩))).soapTimeout = 10000 := by
  obtain ⟨opened, _, hload, _⟩ := exists_load_hostSystem
  obtain ⟨hmixed, hreached⟩ := @readFrom_concurrent yaml ⟨opened, ⟨"cfg", hostDocument⟩⟩
    Settings.standard wider isRegular_wider ofDocument_hostDocument
  refine ⟨opened, hload, ?_, fun trace htrace => ?_⟩
  · exact hreached not_isBlocked_hostDocument { Seen.nothing with searchWait := true } nofun
  · obtain ⟨seen, _, hread⟩ := hmixed wider.updates trace (List.prefix_refl _) htrace
    rw [hread, Settings.mixed]
    cases seen.soapTimeout <;> rfl

end NatGateway.Mapping
