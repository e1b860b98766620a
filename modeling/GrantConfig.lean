import GrantConfig.Provider.Change
import GrantConfig.Provider.Request
import GrantConfig.Settings.Loader
import GrantConfig.Shared
import GrantConfig.State
import GrantConfig.Settings.Runs
import GrantConfig.Proofs.Visits
import GrantConfig.Proofs.Runs
import GrantConfig.Proofs.Requests
import GrantConfig.Proofs.Utf8Bytes
import GrantConfig.Proofs.ConsentUrl
import GrantConfig.Proofs.Entries
import GrantConfig.Proofs.Lowercase
import GrantConfig.Proofs.Merge
import GrantConfig.Proofs.KeyPaths
import GrantConfig.Proofs.VariableNames
import GrantConfig.Proofs.Spelling
import GrantConfig.Proofs.Layers
import GrantConfig.Proofs.Sections
import GrantConfig.Proofs.Documents
import GrantConfig.Proofs.Variables
import GrantConfig.Proofs.Precedence
import GrantConfig.Proofs.JsonDocuments
import GrantConfig.Proofs.Serialization
import GrantConfig.Proofs.Agreement
import GrantConfig.Proofs.Overlay
import GrantConfig.Proofs.Register
import GrantConfig.Proofs.Secrecy
import GrantConfig.Proofs.Frames
import GrantConfig.Proofs.Sources
import GrantConfig.Proofs.Isolation
import GrantConfig.Proofs.Writes
import GrantConfig.Proofs.VisitingOrder
import GrantConfig.Proofs.Standing
import GrantConfig.Proofs.SecretVariable
import GrantConfig.Proofs.CustomStart
import GrantConfig.Proofs.Resolution
import GrantConfig.Proofs.SecretOrigin
import GrantConfig.Proofs.LoadOutcome
import GrantConfig.Proofs.FieldValues
import GrantConfig.Proofs.ObjectBinding
import GrantConfig.Proofs.ListBinding
import GrantConfig.Proofs.JoinedParams
import GrantConfig.Proofs.JoinedScopes
import GrantConfig.Proofs.PresetDefaults
import GrantConfig.Proofs.Exchange
import GrantConfig.Proofs.Blame
import GrantConfig.Proofs.SettingsCheck
import GrantConfig.Proofs.LoadLog
import GrantConfig.Proofs.NormalizedNames
import GrantConfig.Proofs.LetterCase
import GrantConfig.Proofs.DocumentWrites
import GrantConfig.Proofs.Verbatim
import GrantConfig.Proofs.FoldedSpellings
import GrantConfig.Proofs.Recasing
import GrantConfig.Proofs.DefaultLoad
