import Polyengine.Bindgen.TypeAgreement
import Polyengine.Embedder.SafeMappings

/-!
# When a generated type agrees

The generated type of a plain type is that of the values that the adapters give and take, and a list
of an alias of bytes is not plain.
-/

set_option autoImplicit false

namespace Polyengine.Bindgen

open Polyengine.Cabi Polyengine.Embedder

section

variable {engine : Engine} {type part : WitType} {inOption : Bool}

theorem Plain.of_parts (here : PlainHere type inOption)
    (parts : ∀ part inPart, WitChild part inPart type → Plain part inPart) : Plain type inOption := by
  intro inner inInner occurs
  cases occurs with
  | self => exact here
  | child isChild occurs => exact parts _ _ isChild _ _ occurs

theorem Named.of_parts (here : NamedHere type)
    (parts : ∀ part inPart, WitChild part inPart type → Named part inPart) : Named type inOption := by
  intro inner inInner occurs
  cases occurs with
  | self => exact here
  | child isChild occurs => exact parts _ _ isChild _ _ occurs

/-- A named option of bytes. -/
def aliasedOption : WitType := .type (.option (.list (.prim .u8)))

def aliasedBytes : WitType := .list (.type (.prim .u8))

end

end Polyengine.Bindgen
