import StoreBench.Entries
import StoreBench.Toml.DateTime

namespace StoreBench.Toml

/-! Typed values: the plain ones, arrays and tables. -/

inductive Value where
  | text (content : String)
  | integer (number : Int64)
  | float (number : Float)
  | boolean (flag : Bool)
  | dateTime (moment : DateTime)
  | array (items : List Value)
  | table (entries : List (String × Value))

instance : Inhabited Value := ⟨.boolean false⟩

abbrev Table := Entries Value

end StoreBench.Toml
