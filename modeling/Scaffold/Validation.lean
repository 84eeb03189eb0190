import Scaffold.Datum

namespace Scaffold

/-!
# Validation of records

A record read from data is checked field by field. All that is wrong with
it is collected: each complaint says where it is and what rule is broken.
-/

/-- The rules that a part of a record can break. -/
inductive Rule
  | missing
  | stringType
  | mappingType
  | recordType
  | choice
  | boolParsing
  | boolType
  | intParsing
  | intType
  | intFromFloat
  | finiteNumber
  | floatParsing
  | floatType
  | atLeast
  | above
  | pathType
  | invalidJson
  deriving DecidableEq, Repr

def Rule.name : Rule → String
  | .missing => "missing"
  | .stringType => "string_type"
  | .mappingType => "dict_type"
  | .recordType => "model_type"
  | .choice => "enum"
  | .boolParsing => "bool_parsing"
  | .boolType => "bool_type"
  | .intParsing => "int_parsing"
  | .intType => "int_type"
  | .intFromFloat => "int_from_float"
  | .finiteNumber => "finite_number"
  | .floatParsing => "float_parsing"
  | .floatType => "float_type"
  | .atLeast => "greater_than_equal"
  | .above => "greater_than"
  | .pathType => "path_type"
  | .invalidJson => "json_invalid"

/-- A broken rule and the place of the part that breaks it. -/
structure Complaint where
  place : List String
  rule : Rule
  deriving DecidableEq, Repr

/-- All that is wrong with a record, under the record's title. -/
structure ValidationError where
  title : String
  complaints : List Complaint
  deriving DecidableEq, Repr

namespace ValidationError

/-- The first line of the account of what is wrong. -/
def headline (e : ValidationError) : String :=
  let n := e.complaints.length
  let ending := if n == 1 then "" else "s"
  s!"{n} validation error{ending} for {e.title}"

end ValidationError

end Scaffold
