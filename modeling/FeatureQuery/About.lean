/-!
# About

The name and the version that the program reports.
-/

namespace FeatureQuery.About

/-- The name of the package. -/
def name : String := "radar-search"

/-- The version of the package. -/
def version : String := "0.1.0"

end FeatureQuery.About
