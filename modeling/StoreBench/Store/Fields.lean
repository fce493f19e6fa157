import Std.Data.TreeMap
import StoreBench.Store.Request

namespace StoreBench

/-! The fields of a stored record: each name has one value, and fields are listed in
the order of their names. -/

abbrev Fields := Std.TreeMap String String

namespace Fields

/-- Overwrite fields by the pairs of a record, the last of several with one name
winning. -/
def overwrite (fields : Fields) (values : Record) : Fields :=
  values.foldl (fun fields (name, value) => fields.insert name value) fields

def ofRecord (values : Record) : Fields := overwrite ∅ values

/-- The fields that are asked for and exist, in the order in which they are asked
for. An empty list asks for all fields. -/
def project (fields : Fields) (wanted : List String) : Record :=
  if wanted.isEmpty then fields.toList
  else wanted.filterMap fun name => fields[name]?.map fun value => (name, value)

end Fields
end StoreBench
