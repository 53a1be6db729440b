import NatGateway.Proofs.First
import NatGateway.Proofs.Soap.Schema
import NatGateway.Soap.Action
import NatGateway.Wan.Messages

/-!
# Records from entries

What is read of a record from entries that were not written by the same schema. Of every field only the
first entry of its name matters: it may be anywhere, entries of other names and later ones of the same
name do no harm, and a field without an entry has the zero value. So any part of a record comes back,
and from the entries that a record is written as, all of it.
-/

namespace NatGateway.Soap

namespace Schema

variable {schema : Schema} {record : Record}

/-- A record of which only chosen fields are left; the others have the zero value of their type. -/
def chosenPart (schema : Schema) (record : Record) (chosen : Field → Bool) : Record :=
  List.zipWith (fun field value => if chosen field = true then value else field.type.zero)
    schema.fields record

/-- A field is read from its first entry. -/
theorem readField_of_isFirst {answer : Answer} {field : Field} {value : Value}
    (htype : value.HasType field.type)
    (h : IsFirst (fun entry => entry.1 ≠ field.element) answer.entries
      (field.element, value.written)) :
    (answer.value? field.type field.element).map (fun value => value.getD field.type.zero) =
      .ok value := by
  simp only [Answer.value?, Answer.get?, lookup_eq_some_iff_isFirst.2 h, Answer.readEntry,
    ValueType.read_written htype]
  rfl

/-- A field without an entry has the zero value. -/
theorem readField_of_absent {answer : Answer} {field : Field}
    (h : ∀ entry ∈ answer.entries, entry.1 ≠ field.element) :
    (answer.value? field.type field.element).map (fun value => value.getD field.type.zero) =
      .ok field.type.zero := by
  simp only [Answer.value?, Answer.get?, lookup_eq_none_iff_forall_ne.2 h]
  rfl

/-- A part of a record is read from entries in which the chosen fields come first with their texts and
the other fields do not come. -/
theorem read_chosenPart (hfits : schema.Fits record) {chosen : Field → Bool} {answer : Answer}
    (hchosen : ∀ pair ∈ schema.fields.zip record, chosen pair.1 = true →
      IsFirst (fun entry => entry.1 ≠ pair.1.element) answer.entries
        (pair.1.element, pair.2.written))
    (hothers : ∀ field ∈ schema.fields, chosen field = false →
      ∀ entry ∈ answer.entries, entry.1 ≠ field.element) :
    schema.read answer = .ok (schema.chosenPart record chosen) := by
  obtain ⟨hlength, htypes⟩ := hfits
  refine mapM_eq_ok_of_zip (by simp [chosenPart, hlength]) fun pair hpair => ?_
  obtain ⟨i, hi, rfl⟩ := List.mem_iff_getElem.1 hpair
  simp only [chosenPart, List.length_zip, List.length_zipWith] at hi
  have hfield : i < schema.fields.length := by omega
  have hvalue : i < record.length := by omega
  have hmem : (schema.fields[i], record[i]) ∈ schema.fields.zip record :=
    List.mem_iff_getElem.2 ⟨i, by rw [List.length_zip]; omega, List.getElem_zip⟩
  simp only [chosenPart, List.getElem_zip, List.getElem_zipWith]
  cases hkept : chosen schema.fields[i] with
  | true =>
    rw [if_pos rfl]
    exact readField_of_isFirst (htypes _ hmem) (hchosen _ hmem hkept)
  | false =>
    rw [if_neg Bool.false_ne_true]
    exact readField_of_absent (hothers _ (List.getElem_mem hfield) hkept)

/-- A schema with an argument of every common type. -/
def everyType : Schema where
  name := "EveryType"
  action := none
  fields := [⟨"text", "Text", .text⟩, ⟨"flag", "Flag", .flag⟩, ⟨"u8", "U8", .integer .u8⟩,
    ⟨"u16", "U16", .integer .u16⟩, ⟨"u32", "U32", .integer .u32⟩, ⟨"u64", "U64", .integer .u64⟩,
    ⟨"i32", "I32", .integer .i32⟩, ⟨"i64", "I64", .integer .i64⟩]

/-- Records of every schema without repeated names, and all declared messages are such, are read back
in part and as a whole. In part they are read from any entries in which each chosen field is told first
by its own text and no other field is told; as a whole from the entries that they are written as. -/
theorem read_parts_and_whole :
    (∀ schema ∈ Wan.messages, (schema.fields.map (·.element)).Nodup) ∧
    ∀ schema : Schema, (schema.fields.map (·.element)).Nodup →
      ∀ record, schema.Fits record →
        (∀ (chosen : Field → Bool) (answer : Answer),
          (∀ pair ∈ schema.fields.zip record, chosen pair.1 = true →
            IsFirst (fun entry => entry.1 ≠ pair.1.element) answer.entries
              (pair.1.element, pair.2.written)) →
          (∀ field ∈ schema.fields, chosen field = false →
            ∀ entry ∈ answer.entries, entry.1 ≠ field.element) →
          schema.read answer = .ok (schema.chosenPart record chosen)) ∧
        ∀ answer : Answer, answer.entries = (Payload.ofRecord schema record).entries →
          schema.read answer = .ok record := by
  refine ⟨by decide, fun schema helements record hfits => ⟨?_, ?_⟩⟩
  · intro chosen answer hchosen hothers
    exact read_chosenPart hfits hchosen hothers
  · intro answer hanswer
    exact read_entries helements hfits hanswer

/-- Entries in another order: one is unknown, two are repeated, and one is missing. -/
theorem read_everyType :
    everyType.read ⟨"Act", none, [("I64", "-1"), ("Other", "x"), ("Text", " y "), ("U8", "255"),
        ("U8", "many"), ("Flag", "1"), ("U32", "0"), ("U64", "18446744073709551615"),
        ("I32", "-2147483648"), ("Text", "z")]⟩ =
      .ok [.text " y ", .flag true, .integer 255, .integer 0, .integer 0,
        .integer 18446744073709551615, .integer (-2147483648), .integer (-1)] := by
  obtain ⟨_, hschemas⟩ := read_parts_and_whole
  obtain ⟨hpart, _⟩ := hschemas everyType (by decide) [.text " y ", .flag true, .integer 255,
    .integer 80, .integer 0, .integer 18446744073709551615, .integer (-2147483648), .integer (-1)]
    (by decide)
  refine hpart (fun field => field.label != "u16") _ ?_ (by decide)
  simp only [← lookup_eq_some_iff_isFirst]
  decide

end Schema

end NatGateway.Soap
