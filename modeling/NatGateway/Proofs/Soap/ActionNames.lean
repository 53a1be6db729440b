import Mathlib.Data.List.Induction
import NatGateway.Proofs.First
import NatGateway.Proofs.Soap.Action

/-!
# Names of actions

Which name an action goes by. It is given with the action or with its arguments, declared as the tag of
their kind, or it is the name of the kind, and of these texts the first one that is not empty counts. The
tag is the exception: an empty one is taken as it is, so it hides the name of the kind behind it, and the
action has no name. Whatever the name is, the header and the element in the body show the same one.
-/

namespace NatGateway.Soap

open NatGateway.Text (utf8Bytes)
open NatGateway.Xml (Element)

/-! ## Giving names -/

/-- Of a chain of changes each of which undoes the one before, the last one counts. -/
theorem foldl_eq_getLast? {σ α : Type} {change : σ → α → σ}
    (h : ∀ state first second, change (change state first) second = change state second)
    (state : σ) (values : List α) :
    values.foldl change state = (values.getLast?.map (change state)).getD state := by
  induction values using List.reverseRecOn with
  | nil => rfl
  | append_singleton values last ih =>
    rw [List.foldl_append, ih, List.getLast?_concat]
    cases values.getLast? with
    | none => rfl
    | some value => exact h state value last

namespace Payload

/-- A name that is given to arguments replaces the one that was given before. -/
theorem withName_withName (payload : Payload) (first second : String) :
    (payload.withName first).withName second = payload.withName second := by
  cases payload with
  | declared arguments => rfl
  | listed entries => rfl

/-- Of the names that are given to declared arguments the last one is kept. -/
theorem foldl_withName_declared (given : List String) (arguments : DeclaredArguments) :
    given.foldl withName (.declared arguments) =
      .declared { arguments with givenName := given.getLast?.or arguments.givenName } := by
  rw [foldl_eq_getLast? withName_withName]
  cases given.getLast? with
  | none => rfl
  | some name => rfl

/-- Listed arguments take no name. -/
theorem foldl_withName_listed (given : List String) (entries : List (String × String)) :
    given.foldl withName (.listed entries) = .listed entries := by
  rw [foldl_eq_getLast? withName_withName]
  cases given.getLast? with
  | none => rfl
  | some name => rfl

/-- Only a text that is not empty is one. -/
theorem nonEmpty?_eq_some_iff {text kept : String} :
    nonEmpty? text = some kept ↔ text = kept ∧ kept ≠ "" := by
  unfold nonEmpty?
  split
  · next hempty =>
    rw [String.isEmpty_iff] at hempty
    simp [hempty, eq_comm]
  · next hempty =>
    rw [String.isEmpty_iff] at hempty
    simp only [Option.some.injEq]
    exact ⟨fun h => ⟨h, h ▸ hempty⟩, fun h => h.1⟩

end Payload

/-! ## The first text that is not empty -/

/-- The first text of a list that is not empty; empty if there is none. -/
def firstText (texts : List String) : String := (texts.find? (· ≠ "")).getD ""

/-- No text is found exactly if all of them are empty. -/
theorem find?_ne_empty_eq_none_iff {texts : List String} :
    texts.find? (· ≠ "") = none ↔ ∀ text ∈ texts, text = "" := by
  simp [List.find?_eq_none]

/-- There is no first text exactly if all of them are empty. -/
theorem firstText_eq_empty_iff {texts : List String} :
    firstText texts = "" ↔ ∀ text ∈ texts, text = "" := by
  rw [firstText]
  cases hfind : texts.find? (· ≠ "") with
  | none => simpa using find?_ne_empty_eq_none_iff.1 hfind
  | some text =>
    have hne : text ≠ "" := by simpa using List.find?_some hfind
    simp only [Option.getD_some, hne, false_iff]
    exact fun hall => hne (hall text (List.mem_of_find?_eq_some hfind))

/-- A text that may be absent is passed over if it is absent or empty. -/
theorem find?_toList_append (offer : Option String) (texts : List String) :
    (offer.toList ++ texts).find? (· ≠ "") =
      (offer.bind Payload.nonEmpty?).or (texts.find? (· ≠ "")) := by
  cases offer with
  | none => rfl
  | some text =>
    by_cases h : text = ""
    · simp [h, Payload.nonEmpty?]
    · simp [h, Payload.nonEmpty?]

/-- A text alone is found unless it is empty. -/
theorem find?_toList (offer : Option String) :
    offer.toList.find? (· ≠ "") = offer.bind Payload.nonEmpty? := by
  have halone := find?_toList_append offer []
  rwa [List.append_nil, List.find?_nil, Option.or_none] at halone

namespace Action

/-- An action whose arguments, and which itself, were given names one after the other. -/
def called (uri : String) (payload : Payload) (given names : List String) : Action :=
  names.foldl withName ⟨uri, none, given.foldl Payload.withName payload⟩

/-- The names that were given to an action and to its declared arguments, as far as they are kept. -/
def givenTexts (arguments : DeclaredArguments) (given names : List String) : List String :=
  names.getLast?.toList ++ (given.getLast?.or arguments.givenName).toList

/-- The texts that an action is offered as its name, in the order in which they are asked. -/
def offeredNames (payload : Payload) (given names : List String) : List String :=
  match payload with
  | .declared arguments =>
      givenTexts arguments given names ++ (arguments.tag.toList ++ [arguments.typeName])
  | .listed _ => names.getLast?.toList

/-- Whether an empty tag stands before the name of the kind of some arguments, and no name was given. -/
def HidesKind (payload : Payload) (given names : List String) : Prop :=
  ∃ arguments, payload = .declared arguments ∧ arguments.tag = some "" ∧ arguments.typeName ≠ "" ∧
    ∀ text ∈ givenTexts arguments given names, text = ""

variable {uri : String} {payload : Payload} {given names : List String}

/-- Of the names that are given to an action the last one is kept, unless it is empty. -/
theorem called_eq :
    called uri payload given names =
      ⟨uri, names.getLast?.bind Payload.nonEmpty?, given.foldl Payload.withName payload⟩ := by
  have hwithName : ∀ (action : Action) (first second : String),
      (action.withName first).withName second = action.withName second := fun _ _ _ => rfl
  rw [called, foldl_eq_getLast? hwithName]
  cases names.getLast? with
  | none => rfl
  | some name => rfl

/-- With declared arguments the given names are asked first, then the tag as it is. -/
theorem name_called_declared (arguments : DeclaredArguments) :
    (called uri (.declared arguments) given names).name =
      (((givenTexts arguments given names).find? (· ≠ "")).or
        (arguments.tag.or (Payload.nonEmpty? arguments.typeName))).getD "" := by
  rw [called_eq, Payload.foldl_withName_declared, givenTexts, find?_toList_append, find?_toList,
    Option.or_assoc]
  simp only [name, Payload.name?, Option.orElse_eq_orElse, Option.orElse_eq_or]

/-- With listed arguments only a name that is given to the action itself counts. -/
theorem name_called_listed (entries : List (String × String)) :
    (called uri (.listed entries) given names).name =
      firstText (offeredNames (.listed entries) given names) := by
  rw [called_eq, Payload.foldl_withName_listed, firstText, offeredNames, find?_toList]
  simp only [name, Payload.name?, Option.orElse_eq_orElse, Option.orElse_eq_or, Option.or_none]

/-- The first text that declared arguments offer: one before the tag, the tag or the name of the kind. -/
theorem firstText_declared (arguments : DeclaredArguments) :
    firstText (offeredNames (.declared arguments) given names) =
      (((givenTexts arguments given names).find? (· ≠ "")).or
        ((arguments.tag.bind Payload.nonEmpty?).or (Payload.nonEmpty? arguments.typeName))).getD "" := by
  rw [firstText, offeredNames, List.find?_append, find?_toList_append arguments.tag]
  exact congrArg (fun kind => (Option.or _ (Option.or _ kind)).getD "")
    (find?_toList (some arguments.typeName))

/-- An action whose kind is hidden has no name. -/
theorem name_called_of_hidesKind (h : HidesKind payload given names) :
    (called uri payload given names).name = "" := by
  obtain ⟨arguments, rfl, htag, -, hempty⟩ := h
  rw [name_called_declared, find?_ne_empty_eq_none_iff.2 hempty, htag]
  rfl

/-- A kind that is hidden has a name of its own. -/
theorem firstText_ne_empty_of_hidesKind (h : HidesKind payload given names) :
    firstText (offeredNames payload given names) ≠ "" := by
  obtain ⟨arguments, rfl, -, hkind, -⟩ := h
  rw [Ne, firstText_eq_empty_iff]
  exact fun hall => hkind (hall _ (by simp [offeredNames]))

/-- An action goes by the first text that is not empty, unless its kind is hidden. -/
theorem name_called_of_not_hidesKind (h : ¬ HidesKind payload given names) :
    (called uri payload given names).name = firstText (offeredNames payload given names) := by
  cases payload with
  | listed entries => exact name_called_listed entries
  | declared arguments =>
    rw [name_called_declared, firstText_declared]
    cases hgiven : (givenTexts arguments given names).find? (· ≠ "") with
    | some name => rfl
    | none =>
      cases htag : arguments.tag with
      | none => rfl
      | some tag =>
        by_cases hempty : tag = ""
        · -- Nothing is hidden by the empty tag, so there is nothing behind it.
          have hkind : arguments.typeName = "" := by
            by_contra hkind
            exact h ⟨arguments, rfl, htag.trans (congrArg some hempty), hkind,
              find?_ne_empty_eq_none_iff.1 hgiven⟩
          rw [hempty, hkind]
          rfl
        · have hkept : Payload.nonEmpty? tag = some tag :=
            Payload.nonEmpty?_eq_some_iff.2 ⟨rfl, hempty⟩
          rw [Option.bind_some, hkept]

/-! ## Where the name is shown -/

/-- The text behind the last number sign of a header, without the quote at its end. -/
def namedInHeader (header : String) : String :=
  String.ofList (header.toList.dropLast.reverse.takeWhile (· ≠ '#')).reverse

/-- A name without a number sign is found in its header, whatever the namespace is. -/
theorem namedInHeader_header {action : Action} (h : '#' ∉ action.name.toList) :
    namedInHeader action.header = action.name := by
  have hchars : action.header.toList.dropLast.reverse =
      action.name.toList.reverse ++ '#' :: ("\"" ++ action.uri).toList.reverse := by
    have hquote : action.header.toList = ("\"" ++ action.uri ++ "#" ++ action.name).toList ++ ['"'] := by
      rw [header, String.toList_append]
      rfl
    rw [hquote, List.dropLast_concat]
    simp
  have hall : ∀ c ∈ action.name.toList.reverse, decide (c ≠ '#') = true := by
    intro c hc
    rw [List.mem_reverse] at hc
    exact decide_eq_true fun heq => h (heq ▸ hc)
  rw [namedInHeader, hchars, List.takeWhile_append_of_pos hall, List.takeWhile_cons_of_neg (by simp),
    List.append_nil, List.reverse_reverse, String.ofList_toList]

/-- Whether an action shows a name: in its header, where a reader finds it if the action can be written,
and in the tags around its arguments, where a reader finds it as the one element of the body. -/
structure Shows (action : Action) (name : String) : Prop where
  header : action.header = "\"" ++ action.uri ++ "#" ++ name ++ "\""
  told : ∀ text, action.encode = .ok text → namedInHeader action.header = name
  written : ∀ text, action.encode = .ok text → ∃ arguments,
    text = writtenEnvelope (Xml.enclosed ("u:" ++ name) [("xmlns:u", action.uri)] arguments)
  read : ∀ text root, action.encode = .ok text → Element.ofBytes? (utf8Bytes text) = some root →
    ∃ body, root.child? "Body" = some body ∧ body.elements.map Element.name = [name]

/-- An action shows its name. -/
theorem shows_name (action : Action) : action.Shows action.name where
  header := rfl
  told text h := by
    obtain ⟨hnames, -⟩ := encode_eq_ok_iff.1 h
    obtain ⟨hname, -⟩ := (Bool.and_eq_true _ _).mp hnames
    refine namedInHeader_header fun hsign => ?_
    have hchar := (isElementName_cases hname).2 '#' hsign
    revert hchar
    decide
  written text h := ⟨_, (encode_eq_ok_iff.1 h).2⟩
  read text root h hroot := by
    obtain ⟨hnames, rfl⟩ := encode_eq_ok_iff.1 h
    rw [ofBytes?_writtenEnvelope (readsAs_bodyText hnames)] at hroot
    split at hroot
    · cases hroot
      exact ⟨⟨openBody.tag, [action.readElement.node]⟩, rfl, rfl⟩
    · cases hroot

/-! ## Refused names -/

/-- Writing an action fails with its own name if that is refused, and else with that of the first argument
whose name is. -/
theorem encode_eq_error_iff {action : Action} {error : SoapError} :
    action.encode = .error error ↔
      isElementName action.name = false ∧ error = .invalidName action.name ∨
        isElementName action.name = true ∧ ∃ entry,
          IsFirst (isElementName ·.1 = true) action.payload.entries entry ∧
            isElementName entry.1 = false ∧ error = .invalidName entry.1 := by
  have hfirst : ∀ entry, action.payload.entries.find? (fun entry => !isElementName entry.1) = some entry ↔
      IsFirst (isElementName ·.1 = true) action.payload.entries entry ∧ isElementName entry.1 = false := by
    intro entry
    rw [List.find?_eq_some_iff_append, IsFirst, and_comm]
    simp
  unfold encode
  cases hname : isElementName action.name with
  | false =>
    simp only [Bool.not_false, if_true, Except.error.injEq, true_and, Bool.false_eq_true, false_and,
      or_false]
    exact eq_comm
  | true =>
    simp only [Bool.not_true, Bool.false_eq_true, if_false, reduceCtorEq, false_and, true_and, false_or,
      ← and_assoc, ← hfirst]
    cases action.payload.entries.find? fun entry => !isElementName entry.1 with
    | none => simp
    | some entry =>
      simp only [Except.error.injEq, Option.some.injEq, exists_eq_left']
      exact eq_comm

/-- The empty name is told as refused if the action has no name, or an argument has none. -/
theorem encode_eq_error_nameless_iff {action : Action} :
    action.encode = .error (.invalidName "") ↔
      action.name = "" ∨ isElementName action.name = true ∧ ∃ entry,
        IsFirst (isElementName ·.1 = true) action.payload.entries entry ∧ entry.1 = "" := by
  have hempty : isElementName "" = false := by decide
  have hnameless : ∀ name, isElementName name = false ∧ SoapError.invalidName "" = .invalidName name ↔
      name = "" := by
    intro name
    rw [SoapError.invalidName.injEq, @eq_comm _ "" name]
    exact and_iff_right_of_imp fun h => h ▸ hempty
  simp only [encode_eq_error_iff, hnameless]

/-- Giving names leaves the arguments as they are. -/
theorem entries_called : (called uri payload given names).payload.entries = payload.entries := by
  rw [called_eq]
  cases payload with
  | declared arguments => rw [Payload.foldl_withName_declared]; rfl
  | listed entries => rw [Payload.foldl_withName_listed]

/-- For all arguments and all names that are given to them and to their action, the action goes by the
first text that is not empty among the last name of its own, the last name of its arguments, their tag and
the name of their kind, unless an empty tag hides that kind. Then the action has no name, and otherwise it
has none only if all these texts are empty or absent; an action without a name is refused for it. The
header and the element in the body show one and the same name. -/
theorem name_called_iff (uri : String) (payload : Payload) (given names : List String) :
    ((called uri payload given names).name = firstText (offeredNames payload given names) ↔
        ¬ HidesKind payload given names) ∧
      ((called uri payload given names).name = "" ↔
        (∀ text ∈ offeredNames payload given names, text = "") ∨ HidesKind payload given names) ∧
      ((called uri payload given names).encode = .error (.invalidName "") ↔
        (called uri payload given names).name = "" ∨
          isElementName (called uri payload given names).name = true ∧ ∃ entry,
            IsFirst (isElementName ·.1 = true) payload.entries entry ∧ entry.1 = "") ∧
      (called uri payload given names).Shows (called uri payload given names).name := by
  refine ⟨?_, ?_, ?_, shows_name _⟩
  · constructor
    · intro hname hhides
      rw [name_called_of_hidesKind hhides] at hname
      exact firstText_ne_empty_of_hidesKind hhides hname.symm
    · exact name_called_of_not_hidesKind
  · by_cases hhides : HidesKind payload given names
    · simp only [name_called_of_hidesKind hhides, hhides, or_true]
    · rw [name_called_of_not_hidesKind hhides, firstText_eq_empty_iff, or_iff_left hhides]
  · rw [encode_eq_error_nameless_iff, entries_called]

/-- A kind with a name of its own and an empty tag: the name is offered, but the action does not go by it
and is refused. -/
theorem not_called_by_kind :
    firstText (offeredNames (.declared ⟨"Probe", some "", none, []⟩) [] []) = "Probe" ∧
      (called "urn:x" (.declared ⟨"Probe", some "", none, []⟩) [] []).name ≠ "Probe" ∧
      (called "urn:x" (.declared ⟨"Probe", some "", none, []⟩) [] []).encode =
        .error (.invalidName "") := by
  refine ⟨by decide, by decide, rfl⟩

end Action

end NatGateway.Soap
