import SecretScan.Main
import SecretScan.Proofs.Pattern.Ways
import SecretScan.Proofs.Pattern.Places
import SecretScan.Proofs.Pattern.Groups
import SecretScan.Proofs.Rewrite.Literal
import SecretScan.Proofs.Rewrite.Soundness
import SecretScan.Proofs.Catalog.ApiKey
import SecretScan.Proofs.Env.Names
import SecretScan.Proofs.Rewrite.ApiKeys
import SecretScan.Proofs.Rewrite.ImportLine
import SecretScan.Proofs.Rewrite.NewFindings
import SecretScan.Proofs.Script.CasePatterns
import SecretScan.Proofs.Script.SimpleStatements
import SecretScan.Proofs.Script.Statements
import SecretScan.Proofs.Catalog.Secret
import SecretScan.Proofs.Env.File
import SecretScan.Proofs.Env.Mapping
import SecretScan.Proofs.Env.Naming
import SecretScan.Proofs.FilePath
import SecretScan.Proofs.Files.Disk
import SecretScan.Proofs.Files.Paths
import SecretScan.Proofs.Files.Tree
import SecretScan.Proofs.Remediation.Backups
import SecretScan.Proofs.Remediation.Environment
import SecretScan.Proofs.Remediation.Frame
import SecretScan.Proofs.Remediation.Preview
import SecretScan.Proofs.Remediation.Refusal
import SecretScan.Proofs.Remediation.Variables
import SecretScan.Proofs.Rewrite.Completeness
import SecretScan.Proofs.Rewrite.Positions
import SecretScan.Proofs.Rewrite.Scripts
import SecretScan.Proofs.Rewrite.Undo
import SecretScan.Proofs.Scan.Parts
import SecretScan.Proofs.Files.Listing
import SecretScan.Proofs.Pattern.Token
import SecretScan.Proofs.Pattern.Trailing
import SecretScan.Proofs.Scan.LineEnds
import SecretScan.Proofs.Scan.Lines
import SecretScan.Proofs.Scan.Tokens
import SecretScan.Proofs.Scan.Visits
import SecretScan.Proofs.Report.Masked
import SecretScan.Proofs.Rule.Load
import SecretScan.Proofs.Config.Layers
import SecretScan.Proofs.Script.Import
import SecretScan.Proofs.Rule.Matches
import SecretScan.Proofs.Catalog.Handling
import SecretScan.Proofs.Remediation.Ignored
import SecretScan.Proofs.Console.Results
