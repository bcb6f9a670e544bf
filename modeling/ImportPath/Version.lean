/-!
# Version

The release of the resolver and the version of the document layout that its resolve
reports follow.
-/

namespace ImportPath

/-- The release, as `major.minor.patch`. -/
def version : String := "0.1.0"

/-- The program name followed by the release. -/
def versionString : String := "modpath " ++ version

/-- The layout version of resolve reports; it changes when a field is renamed, removed
or retyped. -/
def schemaVersion : Nat := 1

end ImportPath
