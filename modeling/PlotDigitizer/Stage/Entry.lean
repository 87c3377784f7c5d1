/-
Registering stages from raw input, and the wording of registry errors.
-/
import PlotDigitizer.Input
import PlotDigitizer.Stage.Registry

namespace PlotDigitizer

/-- The layer of a rank, which may be given as any value equal to it. -/
def Layer.ofValue {α : Type} [BEq α] [Reading α] (v : Value α) : Except (InputError α) Layer :=
  if v.isWhole Reading.ofInt? 0 then .ok .interpret
  else if v.isWhole Reading.ofInt? 1 then .ok .assemble
  else .error (.notMember "Layer" v)

def RegistryError.message : RegistryError → Text
  | .duplicate id => "Duplicate stage ID: " ++ id
  | .unknown id dependency => "Stage " ++ id ++ " depends on unknown stage " ++ dependency
  | .circular stuck =>
    "Circular dependency detected among: [" ++ ", ".intercalate (stuck.map Text.quoted) ++ "]"

end PlotDigitizer
