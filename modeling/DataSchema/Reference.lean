import DataSchema.Error
import DataSchema.Text.Split

/-!
# References

A reference `<entry>#<path>` names an entry of a schema store and a place inside its document. The
path is cut at slashes when it begins with one and at points otherwise, and empty steps are skipped.
-/

namespace DataSchema

structure Reference where
  name : String
  steps : List String
deriving DecidableEq

namespace Reference

def parse (text : String) : Except SchemaError Reference :=
  match Text.splitOnce? '#' text.toList with
  | none => .error (.malformedReference text .noSeparator)
  | some ([], _) => .error (.malformedReference text .noName)
  | some (name, path) =>
    .ok ⟨String.ofList name, Text.steps (if path.head? = some '/' then '/' else '.') path⟩

end Reference

end DataSchema
