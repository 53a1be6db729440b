import NatGateway.Proofs.Result
import NatGateway.Proofs.Soap.RoundTrip
import NatGateway.Proofs.Text.Blank
import NatGateway.Proofs.Text.Decimal

/-!
# Records on the wire

What the receiver of a record reads from it. Every field comes back with its value, under whatever
names the others go, as long as no two fields share the name of their element. Only a text that was
white space comes back empty; flags and integers always come back as they were.
-/

namespace NatGateway.Soap

open NatGateway.Text (utf8Bytes)
open NatGateway.Xml

/-- The value that comes back of a value. -/
def Value.kept : Value → Value
  | .text content => .text (keptText content)
  | .flag isSet => .flag isSet
  | .integer value => .integer value

/-- A value of a type is read back from its text. -/
theorem ValueType.read_written {value : Value} {type : ValueType} (h : value.HasType type) :
    type.read value.written = .ok value := by
  cases value with
  | text text =>
    cases type with
    | text => rfl
    | flag => exact h.elim
    | integer type => exact h.elim
  | flag flag =>
    cases type with
    | text => exact h.elim
    | flag => cases flag <;> rfl
    | integer type => exact h.elim
  | integer value =>
    cases type with
    | text => exact h.elim
    | flag => exact h.elim
    | integer type =>
      have htrim : Text.trimmed (Text.decimal value).toList = (Text.decimal value).toList :=
        Text.trimmed_of_forall fun c hc => Text.isBlank_of_mem_decimal hc
      have hnonempty : (Text.decimal value).toList.isEmpty = false := by
        rw [Text.decimal_toList]
        split
        · rfl
        · rw [List.isEmpty_eq_false_iff]
          exact Nat.toDigits_ne_nil
      simp only [ValueType.read, Value.written, htrim, hnonempty, Bool.false_eq_true, if_false,
        Text.read_decimal h]

/-- White space of markup is blank. -/
theorem isBlank_of_isSpace {c : Char} (h : isSpace c = true) : Text.isBlank c = true := by
  simp only [isSpace, Bool.or_eq_true, beq_iff_eq] at h
  rcases h with ((rfl | rfl) | rfl) | rfl <;> decide

/-- Of a text with a character that is not blank everything is kept. -/
theorem keptText_of_mem {text : String} {c : Char} (hmem : c ∈ text.toList)
    (hblank : Text.isBlank c = false) : keptText text = text := by
  have hnot : ¬ text.toList.all isSpace = true := by
    intro hall
    have hc := isBlank_of_isSpace (List.all_eq_true.1 hall c hmem)
    rw [hblank] at hc
    cases hc
  rw [keptText, if_neg hnot]

/-- A decimal text has a first character. -/
theorem exists_mem_decimal (value : Int) : ∃ c, c ∈ (Text.decimal value).toList := by
  rw [Text.decimal_toList]
  split
  · exact ⟨'-', List.mem_cons_self⟩
  · exact List.exists_mem_of_ne_nil _ Nat.toDigits_ne_nil

/-- A decimal text is kept. -/
theorem keptText_decimal (value : Int) : keptText (Text.decimal value) = Text.decimal value := by
  obtain ⟨c, hc⟩ := exists_mem_decimal value
  exact keptText_of_mem hc (Text.isBlank_of_mem_decimal hc)

/-- A document may hold every decimal text. -/
theorem isXmlText_decimal (value : Int) : isXmlText (Text.decimal value) = true := by
  refine List.all_eq_true.2 fun c hc => ?_
  rcases Text.mem_decimal hc with rfl | hdigit
  · decide
  · simp only [Version.allows, Bool.or_eq_true, Bool.and_eq_true, decide_eq_true_eq, beq_iff_eq]
    omega

/-- What is kept of a written value is the value that comes back. -/
theorem read_keptText {value : Value} {type : ValueType} (h : value.HasType type) :
    type.read (keptText value.written) = .ok value.kept := by
  cases value with
  | text text =>
    cases type with
    | text => rfl
    | flag => exact h.elim
    | integer type => exact h.elim
  | flag flag =>
    have hkept : keptText (Value.flag flag).written = (Value.flag flag).written := by
      cases flag <;> rfl
    rw [hkept]
    exact ValueType.read_written h
  | integer value =>
    rw [Value.written, keptText_decimal]
    exact ValueType.read_written h

/-- Whether a value comes back as it was: a text that documents may hold, which is not white space only
unless it is empty; a flag or an integer always. -/
def Value.IsKept : Value → Prop
  | .text content =>
      isXmlText content = true ∧ (content = "" ∨ content.toList.all isSpace = false)
  | .flag _ => True
  | .integer _ => True

instance : ∀ value : Value, Decidable value.IsKept
  | .text content => inferInstanceAs (Decidable (isXmlText content = true ∧
      (content = "" ∨ content.toList.all isSpace = false)))
  | .flag _ => .isTrue trivial
  | .integer _ => .isTrue trivial

/-- What comes back of such a value is the value. -/
theorem Value.kept_of_isKept {value : Value} (h : value.IsKept) : value.kept = value := by
  cases value with
  | text content =>
    obtain ⟨_, rfl | hspace⟩ := h
    · rfl
    · rw [Value.kept, keptText, hspace]
      rfl
  | flag isSet => rfl
  | integer value => rfl

/-- A document may hold the text of a value that comes back as it was. -/
theorem Value.isXmlText_of_isKept {value : Value} (h : value.IsKept) :
    isXmlText value.written = true := by
  cases value with
  | text content => exact h.1
  | flag isSet => cases isSet <;> rfl
  | integer value => exact isXmlText_decimal value

/-- A record of such values comes back as it was. -/
theorem map_kept_of_isKept {record : Record} (h : ∀ value ∈ record, value.IsKept) :
    record.map Value.kept = record :=
  (List.map_congr_left fun value hvalue => Value.kept_of_isKept (h value hvalue)).trans
    (List.map_id record)

/-- A document may hold all texts of a record of such values. -/
theorem all_isXmlText_of_isKept {record : Record} (h : ∀ value ∈ record, value.IsKept) :
    (record.all fun value => isXmlText value.written) = true :=
  List.all_eq_true.2 fun value hvalue => Value.isXmlText_of_isKept (h value hvalue)

/-- The value under a key is found if no key occurs twice. -/
theorem lookup_of_mem {entries : List (String × String)} (hkeys : (entries.map Prod.fst).Nodup)
    {key value : String} (hmem : (key, value) ∈ entries) : entries.lookup key = some value := by
  induction entries with
  | nil => cases hmem
  | cons entry rest ih =>
    obtain ⟨other, present⟩ := entry
    rw [List.map_cons, List.nodup_cons] at hkeys
    obtain ⟨hfresh, hrest⟩ := hkeys
    rcases List.mem_cons.1 hmem with heq | htail
    · cases heq
      rw [List.lookup_cons_self]
    · have hne : (key == other) = false := by
        rw [beq_eq_false_iff_ne]
        rintro rfl
        exact hfresh (List.mem_map.2 ⟨(key, value), htail, rfl⟩)
      rw [List.lookup_cons, hne]
      exact ih hrest htail

namespace Schema

instance (schema : Schema) (record : Record) : Decidable (schema.Fits record) :=
  inferInstanceAs (Decidable (record.length = schema.fields.length ∧
    ∀ entry ∈ schema.fields.zip record, entry.2.HasType entry.1.type))

variable {schema : Schema} {record : Record}

/-- The entries that the receiver of a record is told. -/
def receivedEntries (schema : Schema) (record : Record) : List (String × String) :=
  (schema.entries record).map fun entry => (entry.1, keptText entry.2)

/-- The keys of a record are the elements of its schema. -/
theorem entries_keys (hlength : record.length = schema.fields.length) :
    (schema.entries record).map Prod.fst = schema.fields.map (·.element) := by
  have hzip : (schema.fields.zip record).map Prod.fst = schema.fields :=
    List.map_fst_zip (Nat.le_of_eq hlength.symm)
  calc (schema.entries record).map Prod.fst
      = ((schema.fields.zip record).map Prod.fst).map (·.element) := by simp [entries]
    _ = schema.fields.map (·.element) := by rw [hzip]

/-- A document may hold the entries of a record if it may hold the texts of the values. -/
theorem entries_isRepresentable (hnames : ∀ field ∈ schema.fields, isXmlName field.element = true)
    (hlength : record.length = schema.fields.length) :
    ((schema.entries record).all fun entry => isXmlName entry.1 && isXmlText entry.2) =
      record.all fun value => isXmlText value.written := by
  have hzip : (schema.fields.zip record).map Prod.snd = record :=
    List.map_snd_zip (Nat.le_of_eq hlength)
  have hvalues : (record.all fun value => isXmlText value.written) =
      (schema.fields.zip record).all fun pair => isXmlText pair.2.written :=
    calc (record.all fun value => isXmlText value.written)
        = ((schema.fields.zip record).map Prod.snd).all fun value => isXmlText value.written := by
          rw [hzip]
      _ = (schema.fields.zip record).all fun pair => isXmlText pair.2.written := by
          rw [List.all_map]
          rfl
  rw [hvalues, entries, List.all_map, Bool.eq_iff_iff, List.all_eq_true, List.all_eq_true]
  refine forall₂_congr fun pair hpair => ?_
  have hname := hnames pair.1 (List.of_mem_zip hpair).1
  simp only [Function.comp_apply, hname, Bool.true_and]

/-- The receiver of a record is told the same keys. -/
theorem receivedEntries_keys (hlength : record.length = schema.fields.length) :
    (schema.receivedEntries record).map Prod.fst = schema.fields.map (·.element) := by
  rw [← entries_keys hlength, receivedEntries, List.map_map]
  rfl

/-- A record is read from an answer in which each of its fields is found with a text of its value. -/
theorem read_of_lookup {answer : Answer} (hlength : record.length = schema.fields.length)
    (h : ∀ pair ∈ schema.fields.zip record, ∃ text,
      answer.entries.lookup pair.1.element = some text ∧ pair.1.type.read text = .ok pair.2) :
    schema.read answer = .ok record := by
  refine mapM_eq_ok_of_zip hlength.symm fun pair hpair => ?_
  obtain ⟨text, hfound, hread⟩ := h pair hpair
  simp only [Answer.value?, Answer.get?, hfound, Answer.readEntry, hread]
  rfl

/-- A record comes back from an answer with the entries that its receiver is told. -/
theorem read_receivedEntries (helements : (schema.fields.map (·.element)).Nodup)
    (hfits : schema.Fits record) (action : String) (uri : Option String) :
    schema.read ⟨action, uri, schema.receivedEntries record⟩ = .ok (record.map Value.kept) := by
  obtain ⟨hlength, htypes⟩ := hfits
  refine read_of_lookup (by rw [List.length_map, hlength]) fun pair hpair => ?_
  rw [List.zip_map_right] at hpair
  obtain ⟨⟨field, value⟩, hmem, rfl⟩ := List.mem_map.1 hpair
  have hentry : (field.element, keptText value.written) ∈ schema.receivedEntries record :=
    List.mem_map.2 ⟨(field.element, value.written), List.mem_map.2 ⟨(field, value), hmem, rfl⟩, rfl⟩
  exact ⟨_, lookup_of_mem (by rw [receivedEntries_keys hlength]; exact helements) hentry,
    read_keptText (htypes (field, value) hmem)⟩

/-- A record comes back from an answer with the entries that it is written as. -/
theorem read_entries (helements : (schema.fields.map (·.element)).Nodup)
    (hfits : schema.Fits record) {answer : Answer} (hanswer : answer.entries = schema.entries record) :
    schema.read answer = .ok record := by
  obtain ⟨hlength, htypes⟩ := hfits
  refine read_of_lookup hlength fun pair hpair => ?_
  have hentry : (pair.1.element, pair.2.written) ∈ schema.entries record :=
    List.mem_map.2 ⟨pair, hpair, rfl⟩
  rw [hanswer]
  exact ⟨_, lookup_of_mem (by rw [entries_keys hlength]; exact helements) hentry,
    ValueType.read_written (htypes pair hpair)⟩

end Schema

/-- The receiver of a written action is told what it carries, unless that cannot stand in a document. -/
theorem decodeAnswer_encode {action : Action} {text : String} (h : action.encode = .ok text)
    (hname : action.name ≠ "Fault") :
    decodeAnswer (utf8Bytes text) =
      if action.isRepresentable = true then .ok action.received else .error .malformed := by
  have hanswer : decodeAnswer (utf8Bytes text) =
      ((Envelope.decode (utf8Bytes text)).bind Envelope.result).map fun answer =>
        answer.getD .empty := by
    rw [decodeAnswer]
    cases Envelope.decode (utf8Bytes text) <;> rfl
  rw [hanswer, Action.result_decode_encode h hname]
  split
  · rfl
  · rfl

/-- The receiver of a written action that carries a record reads the record back. -/
theorem read_decodeAnswer_encode {schema : Schema} {record : Record} {action : Action}
    {text : String} (h : action.encode = .ok text) (hname : action.name ≠ "Fault")
    (hentries : action.payload.entries = schema.entries record)
    (helements : (schema.fields.map (·.element)).Nodup) (hfits : schema.Fits record) :
    (decodeAnswer (utf8Bytes text)).bind schema.read =
      if action.isRepresentable = true then .ok (record.map Value.kept) else .error .malformed := by
  have hreceived : action.received = ⟨action.name, some action.uri, schema.receivedEntries record⟩ := by
    rw [Action.received, hentries]
    rfl
  rw [decodeAnswer_encode h hname]
  split
  · rw [hreceived]
    exact Schema.read_receivedEntries helements hfits action.name (some action.uri)
  · rfl

end NatGateway.Soap
