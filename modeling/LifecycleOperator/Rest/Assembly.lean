import LifecycleOperator.Json.Decode

/-!
# Assembly requests

The wire format of the intent to create an assembly.
-/

namespace LifecycleOperator

/-- The intent to create an assembly. -/
structure AssemblyRequest where
  assemblyName : String
  descriptorName : String
  /-- The state that it is to reach. -/
  intendedState : String
  properties : OrderedMap String
  deriving DecidableEq, Inhabited

namespace AssemblyRequest

/-- The wire names of the fields, in their order. -/
def fieldNames : List String :=
  ["assemblyName", "descriptorName", "intendedState", "properties"]

def toJson (request : AssemblyRequest) : Json :=
  Json.ofFields
    [("assemblyName", .string request.assemblyName),
      ("descriptorName", .string request.descriptorName),
      ("intendedState", .string request.intendedState),
      ("properties", Json.ofTexts request.properties)]

def decode : Decoder AssemblyRequest := fun document => do
  let members ← Decoder.members fieldNames document
  let assemblyName ← Decoder.required .string members "assemblyName"
  let descriptorName ← Decoder.required .string members "descriptorName"
  let intendedState ← Decoder.required .string members "intendedState"
  let properties ← Decoder.defaulted (.map .string) .empty members "properties"
  return { assemblyName, descriptorName, intendedState, properties }

end AssemblyRequest

end LifecycleOperator
