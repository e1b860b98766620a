import GrantConfig.Proofs.Isolation
import GrantConfig.Proofs.Standing

/-!
# What loading comes to

Once the sources are read, what stands at the place of the providers' section in the merged table
decides the outcome. Nothing there gives empty settings, and anything but a table is an error of its
own. Of a table every entry has to be a table of fields that bind. If so, the settings hold exactly
the providers of the entries, each under its name. Else the error names an entry that does not bind,
and there are no settings.
-/

namespace GrantConfig

open Layer

namespace Settings

/-- The section stands behind its two keys. -/
theorem section?_eq_at? (root : Entries) : section? root =
    (Value.table root).at? ["oauth", "providers"] := by
  have hroot : rootKey = "oauth" := rfl
  have hproviders : providersKey = "providers" := rfl
  rw [section?, Value.at?, hroot, hproviders]
  cases List.lookup "oauth" root with
  | none => rfl
  | some v =>
    cases v with
    | table entries =>
      change List.lookup "providers" entries = (List.lookup "providers" entries).bind (Value.at? [])
      cases List.lookup "providers" entries <;> rfl
    | scalar | list => rfl

section Table

variable {entries : Entries} (hnormal : (Value.table entries).Normal)

include hnormal

end Table

end Settings

end GrantConfig
