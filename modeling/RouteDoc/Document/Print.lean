import RouteDoc.Document.Encode
import RouteDoc.Json.Print
import RouteDoc.Yaml.Print

/-!
The text of a document.
-/

namespace RouteDoc

inductive Format where
  | json
  | yaml
  deriving Repr, DecidableEq

/-- The text of a document in a format. -/
def Document.print (format : Format) (document : Document) : String :=
  match format with
  | .json => Json.print document.toData
  | .yaml => Yaml.print document.toData

end RouteDoc
