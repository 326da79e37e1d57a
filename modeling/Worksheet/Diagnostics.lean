/-!
Diagnostics of the evaluator. A host names the messages it wants in an environment variable; this
build writes none, so there is nothing to install.
-/

set_option autoImplicit false
set_option relaxedAutoImplicit false

namespace Worksheet.Diagnostics

/-- The environment variable that holds the filter. -/
def filterVariable : String := "SHEETDB_LOG"

/-- Whether a writer of messages was installed. -/
def install : Bool := false

end Worksheet.Diagnostics
