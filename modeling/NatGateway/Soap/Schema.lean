import NatGateway.Soap.Answer

/-!
# Declared arguments

A schema lists the arguments of a request or an answer in the order in which they are written, each
with the name of its element and its type. A record holds one value for each field.
-/

namespace NatGateway.Soap

/-- An argument of a schema: its label in records, the name of its element, and its type. -/
structure Field where
  label : String
  element : String
  type : ValueType
deriving DecidableEq

/-- Declared arguments. The action is the name that requests of this schema carry by themselves;
without it they carry the name of the schema. -/
structure Schema where
  name : String
  action : Option String
  fields : List Field
deriving DecidableEq

/-- The values of a schema, one for each field, in order. -/
abbrev Record := List Value

namespace Schema

/-- The record of zero values. -/
def zero (schema : Schema) : Record := schema.fields.map (·.type.zero)

/-- Whether a record has a value of the right type for each field. -/
def Fits (schema : Schema) (record : Record) : Prop :=
  record.length = schema.fields.length ∧
    ∀ entry ∈ schema.fields.zip record, entry.2.HasType entry.1.type

/-- The arguments that a record is written as. -/
def entries (schema : Schema) (record : Record) : List (String × String) :=
  (schema.fields.zip record).map fun (field, value) => (field.element, value.written)

/-- Read a record from an answer: the first argument of each name counts, an absent one gives the
zero value, and arguments of other names are passed over. -/
def read (schema : Schema) (answer : Answer) : Except SoapError Record :=
  schema.fields.mapM fun field =>
    (answer.value? field.type field.element).map fun value => value.getD field.type.zero

/-- The value of a labelled field. -/
def get? (schema : Schema) (record : Record) (label : String) : Option Value :=
  ((schema.fields.map (·.label)).zip record).lookup label

end Schema

end NatGateway.Soap
