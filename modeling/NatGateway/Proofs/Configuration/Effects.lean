import NatGateway.Proofs.Configuration.Reachable

/-!
# What a change does

A change walks down a document and makes the levels that it misses on its way, which it would not
take back if it failed further down. It never comes to that: what is in its way was there before, and
no level is made in front of it. So a change that fails leaves the document as it was. One that
succeeds is found at its path, in whatever letters that is written, and inside of it; at all paths
apart the document reads as before.

A value is put at a path by changing the document first and saving it then. Where it is not saved it
stays in the document; and of several values that are put one after another those stay that were put
before one of them fails.
-/

namespace NatGateway.Configuration

open NatGateway.Yaml (Value)
open NatGateway.Yaml.Value

variable {document after value : Value} {path other : List String} {store : Store}
  {error : ConfigurationError}

/-! ## Changes in place -/

/-- A document after a value has been put into it level by level, and whether that succeeded. A level
that is missed is made before the walk goes on into it, and stays there whatever comes of that. -/
def changeInPlace : Value → List String → Value → Value × Except ConfigurationError Unit
  | _, [], new => (new, .ok ())
  | .mapping entries, name :: rest, new =>
      let level := (lookup? (keyOf name) entries).getD (.mapping [])
      let made := insert (keyOf name) level entries
      let (inner, outcome) := changeInPlace level rest new
      (.mapping (insert (keyOf name) inner made), outcome)
  | document, _ :: _, _ => (document, .error .blocked)

/-- A change in place succeeds where a document can be updated, and leaves it updated. Where it fails
no level is left behind that was not there. -/
theorem changeInPlace_eq : changeInPlace document path value =
    (updated document path value, (update document path value).map fun _ => ()) := by
  induction path generalizing document with
  | nil =>
    rw [updated_nil, update_nil]
    cases document <;> rfl
  | cons name rest ih =>
    obtain ⟨entries, rfl⟩ | hleaf := mapping_or_leaf document
    · rw [changeInPlace, ih, updated_mapping, update]
      simp only [insert_insert]
      cases update ((lookup? (keyOf name) entries).getD (.mapping [])) rest value <;> rfl
    · rw [updated_leaf hleaf (List.cons_ne_nil name rest)]
      cases document with
      | mapping entries => exact absurd rfl (hleaf entries)
      | _ => rfl

/-- An update that something is in the way of fails. -/
theorem update_of_isBlocked (h : IsBlocked document path) :
    update document path value = .error .blocked := by
  induction path generalizing document with
  | nil => exact absurd h not_isBlocked_nil
  | cons name rest ih =>
    cases document with
    | mapping entries =>
      obtain ⟨next, hnext, hrest⟩ := isBlocked_mapping_iff.1 h
      rw [update, hnext, Option.getD_some, ih hrest]
      rfl
    | _ => rfl

/-- An update fails in no other way than that something is in its way. -/
theorem update_eq_error_iff :
    update document path value = .error error ↔ error = .blocked ∧ IsBlocked document path := by
  constructor
  · intro h
    have hblocked : IsBlocked document path := by
      refine of_not_not fun hfree => ?_
      obtain ⟨after, hafter⟩ : ∃ after, update document path value = .ok after :=
        exists_update_iff.2 hfree
      rw [hafter] at h
      cases h
    rw [update_of_isBlocked hblocked, Except.error.injEq] at h
    exact ⟨h.symm, hblocked⟩
  · rintro ⟨rfl, hblocked⟩
    exact update_of_isBlocked hblocked

/-- A stored document is changed in place, and nothing else. -/
theorem change_runFrom : (Store.change path value).runFrom store =
    ((changeInPlace store.configuration.document path value).2,
      ⟨store.system, ⟨store.configuration.folder,
        (changeInPlace store.configuration.document path value).1⟩⟩) := by
  rw [changeInPlace_eq, Store.change, bind_runFrom, get_runFrom, updated]
  cases hupdate : update store.configuration.document path value with
  | error error =>
    simp only [hupdate]
    rfl
  | ok document =>
    simp only [hupdate]
    rfl

/-- A change in place fails if something is in the way. -/
theorem exists_changeInPlace_error_iff :
    (∃ error, (changeInPlace document path value).2 = .error error) ↔ IsBlocked document path := by
  simp only [changeInPlace_eq, map_eq_error_iff, update_eq_error_iff, exists_eq_left]

/-! ## Reading after a change -/

/-- Whether a document reads as another one with a value put at a path: at the path, in whatever
letters that is written, there is the value; behind it everything is read inside of the value; and at
paths apart the same is found as before, or still nothing. -/
structure IsChanged (before : Value) (path : List String) (value after : Value) : Prop where
  found : ∀ spelling, lowered spelling = lowered path → find after spelling = .ok value
  inside : ∀ spelling rest, lowered spelling = lowered path →
    find after (spelling ++ rest) = (find value rest).mapError (·.behind spelling)
  apart : ∀ other, Apart other path → ReadsAs (find before other) (find after other)

/-- A document that is updated reads as changed. -/
theorem isChanged_of_update (h : update document path value = .ok after) :
    IsChanged document path value after := by
  have hfound : ∀ spelling, lowered spelling = lowered path → find after spelling = .ok value :=
    fun spelling hspelling => (find_congr hspelling).2 (find_of_update h)
  refine ⟨hfound, fun spelling rest hspelling => find_append (hfound spelling hspelling) rest, ?_⟩
  intro other hother
  rw [← updated_of_update h]
  exact readsAs_updated hother

/-- What a change of a stored configuration does. It goes in place, and fails if something that is no
mapping stands on the way along its path; then every path reads as before. Otherwise the document
reads as changed. -/
theorem change_effects (path : List String) (value : Value) (store : Store) :
    ∃ outcome document,
      (Store.change path value).runFrom store =
        (outcome, ⟨store.system, ⟨store.configuration.folder, document⟩⟩) ∧
      changeInPlace store.configuration.document path value = (document, outcome) ∧
      ((∃ error, outcome = .error error) ↔ IsBlocked store.configuration.document path) ∧
      (IsBlocked store.configuration.document path →
        ∀ other, find document other = find store.configuration.document other) ∧
      (¬ IsBlocked store.configuration.document path →
        IsChanged store.configuration.document path value document) := by
  refine ⟨_, _, change_runFrom, rfl, exists_changeInPlace_error_iff, fun hblocked other => ?_,
    fun hfree => ?_⟩
  · rw [changeInPlace_eq, updated_of_isBlocked hblocked]
  · obtain ⟨after, hafter⟩ : ∃ after, update store.configuration.document path value = .ok after :=
      exists_update_iff.2 hfree
    rw [changeInPlace_eq, updated_of_update hafter]
    exact isChanged_of_update hafter

/-- In a loaded document a value is put below a level that has to be made, and read in other letters;
below a number it is not put. -/
theorem change_effects_hostDocument : ∃ made kept,
    (Store.change ["NAT", "Extra", "Ttl"] (integer 5)).runFrom ⟨hostSystem, ⟨"cfg", hostDocument⟩⟩ =
      (.ok (), ⟨hostSystem, ⟨"cfg", made⟩⟩) ∧
    find made ["nat", "EXTRA", "ttl"] = .ok (integer 5) ∧
    find made ["nat", "EXTRA", "ttl", "x"] = .error (.notMapping ["nat", "EXTRA", "ttl"]) ∧
    find made ["host"] = .ok (integer 1) ∧
    (Store.change ["Host", "Ttl"] (integer 5)).runFrom ⟨hostSystem, ⟨"cfg", hostDocument⟩⟩ =
      (.error .blocked, ⟨hostSystem, ⟨"cfg", kept⟩⟩) ∧
    find kept ["host"] = .ok (integer 1) := by
  obtain ⟨outcome, made, hmade, hplaceMade, hfails, _, hdone⟩ :=
    change_effects ["NAT", "Extra", "Ttl"] (integer 5) ⟨hostSystem, ⟨"cfg", hostDocument⟩⟩
  obtain ⟨refused, kept, hkept, hplaceKept, _, hsame, _⟩ :=
    change_effects ["Host", "Ttl"] (integer 5) ⟨hostSystem, ⟨"cfg", hostDocument⟩⟩
  have houtcome : outcome = .ok () := (congrArg Prod.snd hplaceMade).symm.trans rfl
  have hrefused : refused = .error .blocked := (congrArg Prod.snd hplaceKept).symm.trans rfl
  subst houtcome hrefused
  have hhost : find hostDocument ["host"] = .ok (integer 1) := rfl
  have hchanged := hdone fun hblocked => nomatch hfails.2 hblocked
  have hspelling : lowered ["nat", "EXTRA", "ttl"] = lowered ["NAT", "Extra", "Ttl"] := by
    decide +kernel
  refine ⟨made, kept, hmade, hchanged.found _ hspelling, hchanged.inside _ ["x"] hspelling, ?_, hkept,
    ?_⟩
  · exact (hchanged.apart ["host"] (by decide +kernel)).ok_iff.2 hhost
  · have hblocked : IsBlocked hostDocument ["Host", "Ttl"] :=
      ⟨["Host"], integer 1, ⟨["Ttl"], rfl⟩, by decide, rfl, nofun⟩
    exact (hsame hblocked ["host"]).trans hhost

/-! ## Changes that are not saved -/

section

variable {format : Format} {final : Store}

/-- A value is not put at a path if something is in the way, and then nothing is changed; or if the
changed document is not saved, and then it stays changed. -/
theorem put_eq_error_iff : (Store.put format path value).runFrom store = (.error error, final) ↔
    (error = .blocked ∧ IsBlocked store.configuration.document path ∧ final = store) ∨
      ∃ document, update store.configuration.document path value = .ok document ∧
        final = ⟨store.system, ⟨store.configuration.folder, document⟩⟩ ∧
        (final.configuration.save format).runFrom store.system = (.error error, store.system) := by
  rw [Store.put, bind_runFrom, change_runFrom, changeInPlace_eq, updated]
  cases hupdate : update store.configuration.document path value with
  | error refusal =>
    obtain ⟨rfl, hblocked⟩ := update_eq_error_iff.1 hupdate
    change (Except.error .blocked, store) = (Except.error error, final) ↔ _
    simp [hblocked, eq_comm]
  | ok document =>
    have hfree : ¬ IsBlocked store.configuration.document path :=
      exists_update_iff.1 ⟨document, hupdate⟩
    change (Store.save format).runFrom ⟨store.system, ⟨store.configuration.folder, document⟩⟩ = _ ↔ _
    rw [save_runFrom, Prod.mk.injEq]
    simp only [hfree, false_and, and_false, false_or, Except.ok.injEq, exists_eq_left']
    constructor
    · rintro ⟨hsave, rfl⟩
      -- A failure leaves the system as it was.
      have hkept := (save_eq_error_iff.1 (Prod.ext hsave rfl)).1
      exact ⟨congrArg (Store.mk · _) hkept, Prod.ext hsave hkept⟩
    · rintro ⟨rfl, hsave⟩
      rw [hsave]
      exact ⟨rfl, rfl⟩

/-- Saving does not fail because something is in the way. -/
theorem ne_blocked_of_save {configuration : Configuration} {system opened : System}
    (h : (configuration.save format).runFrom system = (.error error, opened)) : error ≠ .blocked := by
  rcases (save_eq_error_iff.1 h).2 with ⟨rfl, _⟩ | ⟨rfl, _⟩ <;> exact nofun

/-- A value that makes the document one that cannot be written is not saved, and stays. -/
theorem put_of_write_eq_none
    (hupdate : update store.configuration.document path value = .ok document)
    (hwrite : format.write document = none) :
    (Store.put format path value).runFrom store =
      (.error .document, ⟨store.system, ⟨store.configuration.folder, document⟩⟩) :=
  put_eq_error_iff.2 (.inr ⟨document, hupdate, rfl, save_eq_error_iff.2 ⟨rfl, .inl ⟨rfl, hwrite⟩⟩⟩)

/-- Values that are put at paths apart were not blocked by anything before. -/
theorem not_isBlocked_of_putAll {updates : List Update} (hapart : AreApart updates)
    (h : (putAll format updates).runFrom store = (.ok (), final)) :
    ∀ update ∈ updates, ¬ IsBlocked store.configuration.document update.1 := by
  induction updates generalizing store with
  | nil => exact nofun
  | cons first rest ih =>
    obtain ⟨hfirst, hrest⟩ := List.pairwise_cons.1 hapart
    obtain ⟨middle, hput, hputs⟩ := forM_cons_eq_ok_iff.1 h
    obtain ⟨document, hupdate, hmiddle, _⟩ := put_eq_ok_iff.1 hput
    refine List.forall_mem_cons.2 ⟨exists_update_iff.1 ⟨document, hupdate⟩, fun update hmem => ?_⟩
    have hlater := ih hrest hputs update hmem
    rw [hmiddle, ← updated_of_update hupdate, isBlocked_updated_iff (hfirst update hmem).symm] at hlater
    exact hlater

/-- Of values that are put at paths apart some are put before it fails; the next one is blocked by
something that was there before, or is not saved and stays there all the same. -/
theorem exists_of_putAll_eq_error {updates : List Update} (hapart : AreApart updates)
    (h : (putAll format updates).runFrom store = (.error error, final)) :
    ∃ front update back, updates = front ++ update :: back ∧
      (∀ other ∈ front, ¬ IsBlocked store.configuration.document other.1) ∧
      (error = .blocked ∧ IsBlocked store.configuration.document update.1 ∧
          final.configuration.document = run front store.configuration.document ∨
        error ≠ .blocked ∧ ¬ IsBlocked store.configuration.document update.1 ∧
          final.configuration.document = run (front ++ [update]) store.configuration.document) := by
  obtain ⟨front, update, back, middle, rfl, hfront, hput⟩ := forM_eq_error_iff.1 h
  obtain ⟨hapartFront, _, hbetween⟩ := List.pairwise_append.1 hapart
  have hdocument : middle.configuration.document = run front store.configuration.document :=
    document_of_putAll hfront
  have hblocked : IsBlocked middle.configuration.document update.1 ↔
      IsBlocked store.configuration.document update.1 := by
    rw [hdocument]
    exact isBlocked_run_iff fun other hother => (hbetween other hother update List.mem_cons_self).symm
  refine ⟨front, update, back, rfl, not_isBlocked_of_putAll hapartFront hfront, ?_⟩
  rcases put_eq_error_iff.1 hput with ⟨rfl, hway, rfl⟩ | ⟨document, hupdate, rfl, hsave⟩
  · exact .inl ⟨rfl, hblocked.1 hway, hdocument⟩
  · have hfree := mt hblocked.2 (exists_update_iff.1 ⟨document, hupdate⟩)
    refine .inr ⟨ne_blocked_of_save hsave, hfree, ?_⟩
    rw [run, List.foldl_append]
    change document = updated (run front store.configuration.document) update.1 update.2
    rw [← hdocument, updated_of_update hupdate]

end

end NatGateway.Configuration
