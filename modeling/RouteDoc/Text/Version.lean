import RouteDoc.Text.DecimalDigit

/-!
Path segments that name a version.
-/

namespace RouteDoc.Text

/-- Whether a path segment names a major version, such as `v2`. -/
def isVersion : List Char → Bool
  | 'v' :: d :: ds => isDecimalDigit d && ds.all isDecimalDigit
  | _ => false

end RouteDoc.Text
