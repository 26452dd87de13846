import FlashImage.Text.Binary64

/-!
The values of a TOML document.

A table keeps its entries in the order in which the document gives them. Dates and times have no
use here beyond being values, so a value of that kind holds nothing.
-/

set_option autoImplicit false
set_option relaxedAutoImplicit false

namespace FlashImage.Toml

/-- A number with a point or an exponent. -/
inductive Real
  | finite (negative : Bool) (magnitude : Text.Binary64)
  | infinite (negative : Bool)
  | nan
  deriving DecidableEq, Repr

def Real.text : Real → String
  | .finite true m => "-" ++ m.text
  | .finite false m => m.text
  | .infinite true => "-inf"
  | .infinite false => "inf"
  | .nan => "NaN"

/-- What brought a table about, which decides on how it may be extended. -/
inductive TableForm
  /-- Braces. The table is complete. -/
  | inline
  /-- A header of its own. -/
  | defined
  /-- A header that leads through the table. -/
  | implied
  /-- A dotted key that leads through the table. -/
  | dotted
  deriving DecidableEq, Repr

inductive Value
  | text (s : String)
  | integer (n : Int)
  | real (x : Real)
  | boolean (b : Bool)
  | moment
  | array (items : List Value)
  | table (form : TableForm) (entries : List (String × Value))
  /-- An array of tables that have headers of their own, each given by its entries. -/
  | tables (items : List (List (String × Value)))

abbrev Entries := List (String × Value)

end FlashImage.Toml
