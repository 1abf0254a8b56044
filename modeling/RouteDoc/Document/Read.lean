import RouteDoc.Document.Decode
import RouteDoc.Document.Print
import RouteDoc.Json.Read
import RouteDoc.Json.Reader
import RouteDoc.Yaml.Reader

/-!
Documents from their text.
-/

namespace RouteDoc

/-- The document that a text in a format writes. -/
def Document.read? (format : Format) (text : String) : Option Document :=
  match format with
  | .json => (Json.read? text).bind (Decode.document? Json.reader)
  | .yaml => (Yaml.read? text).bind (Decode.document? Yaml.reader)

end RouteDoc
