import SensorGateway.Text.Lowercase

/-!
# `SensorGateway.Command.Parameters`: named texts of an operator

Parameters are pairs of a name and a text, in the order in which they
were given. A name is found by its first pair, with the case of ASCII
letters ignored.
-/

set_option autoImplicit false

namespace SensorGateway

/-- Names with their texts, in order. -/
structure Parameters where
  pairs : List (String × String)
  deriving Repr, DecidableEq

namespace Parameters

/-- No parameters. -/
def empty : Parameters := ⟨[]⟩

/-- Puts a parameter behind the others. -/
def push (params : Parameters) (name text : String) : Parameters :=
  ⟨params.pairs ++ [(name, text)]⟩

/-- The text of the first parameter with a name. -/
def get? (params : Parameters) (name : String) : Option String :=
  (params.pairs.find? fun pair => Text.sameIgnoringAsciiCase pair.1 name).map Prod.snd

end Parameters

end SensorGateway
