import ImagePreload.Cluster.Script
import ImagePreload.Config.SchemaFile
import ImagePreload.Main
import ImagePreload.Proofs.Course
import ImagePreload.Proofs.Entries
import ImagePreload.Proofs.Completion
import ImagePreload.Proofs.ConfigForm
import ImagePreload.Proofs.ExactClock
import ImagePreload.Proofs.Sweep
import ImagePreload.Proofs.Deadline
import ImagePreload.Proofs.Orchestration
import ImagePreload.Proofs.Namespaces
import ImagePreload.Proofs.Interleaving
import ImagePreload.Proofs.Acceptance
import ImagePreload.Proofs.ExitCodes
import ImagePreload.Proofs.HiddenFindings
import ImagePreload.Proofs.DocumentSlips
import ImagePreload.Proofs.Loading
import ImagePreload.Proofs.DryRun
import ImagePreload.Proofs.DocumentImages
import ImagePreload.Proofs.Extraction
import ImagePreload.Proofs.Succession
import ImagePreload.Proofs.Places
import ImagePreload.Proofs.NestedOptions
import ImagePreload.Proofs.DocumentForm
import ImagePreload.Proofs.NamedJobs
import ImagePreload.Proofs.DurationGrammar
import ImagePreload.Proofs.Alongside
import ImagePreload.Proofs.SettlePeriod
import ImagePreload.Proofs.OptionDefaults
import ImagePreload.Proofs.WorkloadManifest
import ImagePreload.Proofs.ConsoleLines
import ImagePreload.Proofs.MissingKeys
import ImagePreload.Proofs.MessageTrees
