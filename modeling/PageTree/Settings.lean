/-!
# Settings

The values that hold where nothing else is configured.
-/

namespace PageTree.Settings

/-- The directory in which the shipped declarations stand. -/
def shippedDefinitions : String := "$DEFINITIONS"

/-- The user's own directory of declarations. -/
def userDefinitions : String := "$USER_DEFINITIONS"

/-- The last name of the user's own directory of declarations. -/
def userDefinitionsName : String := "definitions"

/-- The address at which the service listens. -/
def host : String := "127.0.0.1"

/-- The port at which the service listens. -/
def port : Nat := 9848

/-- The depth bound of a resolution. -/
def maxDepth : Nat := 32

/-- The name of the trace level of a resolution. -/
def traceLevel : String := "errors"

/-- The version of the service. -/
def version : String := "1.0.0"

end PageTree.Settings
