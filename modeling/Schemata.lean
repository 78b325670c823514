import Schemata.Catalog
import Schemata.Diff
import Schemata.Main
import Schemata.Masking
import Schemata.Operation
import Schemata.Program
import Schemata.Proofs.Addressing
import Schemata.Proofs.Audit
import Schemata.Proofs.Calls
import Schemata.Proofs.Catalog
import Schemata.Proofs.Chaining
import Schemata.Proofs.Changes
import Schemata.Proofs.CommandEffects
import Schemata.Proofs.Commutation
import Schemata.Proofs.ConnectionUrls
import Schemata.Proofs.Convergence
import Schemata.Proofs.Creation
import Schemata.Proofs.Diff
import Schemata.Proofs.Episodes
import Schemata.Proofs.Failures
import Schemata.Proofs.Footprint
import Schemata.Proofs.Identity
import Schemata.Proofs.Interleaving
import Schemata.Proofs.Layers
import Schemata.Proofs.Locality
import Schemata.Proofs.Masking
import Schemata.Proofs.MaskingOffsets
import Schemata.Proofs.Minimality
import Schemata.Proofs.Moves
import Schemata.Proofs.NearestFile
import Schemata.Proofs.Opening
import Schemata.Proofs.Ownership
import Schemata.Proofs.PasswordPlaces
import Schemata.Proofs.PlainParameters
import Schemata.Proofs.Precedence
import Schemata.Proofs.Preview
import Schemata.Proofs.ProgramEffects
import Schemata.Proofs.Quoting
import Schemata.Proofs.ReadBack
import Schemata.Proofs.Refusal
import Schemata.Proofs.Resumption
import Schemata.Proofs.Retention
import Schemata.Proofs.ScriptText
import Schemata.Proofs.Sessions
import Schemata.Proofs.Spellings
import Schemata.Proofs.StatementText
import Schemata.Proofs.UrlLog
import Schemata.Proofs.Usability
import Schemata.Proofs.WireRefinement
import Schemata.Script
import Schemata.Settings.Load
import Schemata.Statement.Reader
import Schemata.Text.Quoted
import Schemata.Wire.Client
