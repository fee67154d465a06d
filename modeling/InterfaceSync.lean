import InterfaceSync.Json.Reader
import InterfaceSync.Json.Writer
import InterfaceSync.Model.Document
import InterfaceSync.Wire.Payload
import InterfaceSync.Url.Parser
import InterfaceSync.Wire.Client
import InterfaceSync.Wire.Pem
import InterfaceSync.Wire.Trust
import InterfaceSync.Sync.Error
import InterfaceSync.Sync.Event
import InterfaceSync.Sync.Loaded
import InterfaceSync.Sync.Snapshot
import InterfaceSync.Sync.Store
import InterfaceSync.Sync.Attempt
import InterfaceSync.Sync.Subscription
import InterfaceSync.Sync.Session
import InterfaceSync.Cli.Failure
import InterfaceSync.Sync.NetworkLoad
import InterfaceSync.Settings.Basic
import InterfaceSync.Settings.Decode
import InterfaceSync.Settings.Environment
import InterfaceSync.Toml.Quoted
import InterfaceSync.Toml.Scalar
import InterfaceSync.Toml.Reader
import InterfaceSync.Cli.Arguments
import InterfaceSync.Settings.Display
import InterfaceSync.Settings.Load
import InterfaceSync.Toml.Writer
import InterfaceSync.Yaml.Scalar
import InterfaceSync.Yaml.Writer
import InterfaceSync.Text.Table
import InterfaceSync.Cli.Host
import InterfaceSync.Cli.Output
import InterfaceSync.Cli.Run
import InterfaceSync.Cli.Machine
import InterfaceSync.Main
import InterfaceSync.Proofs.EditHistory
import InterfaceSync.Proofs.SingleFlight
import InterfaceSync.Proofs.AtomicLoad
import InterfaceSync.Proofs.Publications
import InterfaceSync.Proofs.Observation
import InterfaceSync.Proofs.MachineRuns
import InterfaceSync.Proofs.CancelledWait
import InterfaceSync.Proofs.ShortestDecimal
import InterfaceSync.Proofs.NumberText
import InterfaceSync.Proofs.CanonicalJson
import InterfaceSync.Proofs.JsonText
import InterfaceSync.Proofs.PayloadShapes
import InterfaceSync.Proofs.RunStages
import InterfaceSync.Proofs.CommandViews
import InterfaceSync.Proofs.TomlText
import InterfaceSync.Proofs.SettingsFile
import InterfaceSync.Proofs.Layering
import InterfaceSync.Proofs.WellFormedLayers
import InterfaceSync.Proofs.LayeredSettings
import InterfaceSync.Proofs.FileRewrite
import InterfaceSync.Proofs.RecordLayers
import InterfaceSync.Proofs.MachineFiles
import InterfaceSync.Proofs.PartialProfiles
import InterfaceSync.Proofs.SettingsInit
import InterfaceSync.Proofs.Edits
import InterfaceSync.Proofs.LeafPrecedence
import InterfaceSync.Proofs.JsonReading
import InterfaceSync.Proofs.Independence
import InterfaceSync.Proofs.Resolution
import InterfaceSync.Proofs.BareDocuments
import InterfaceSync.Proofs.RootCause
import InterfaceSync.Proofs.ReplyClasses
import InterfaceSync.Proofs.EffectiveSettings
import InterfaceSync.Proofs.CharTables
import InterfaceSync.Proofs.Decompositions
import InterfaceSync.Proofs.Composed
import InterfaceSync.Proofs.NameChars
import InterfaceSync.Proofs.PunycodeText
import InterfaceSync.Proofs.NameText
import InterfaceSync.Proofs.AddressText
import InterfaceSync.Proofs.UrlText
import InterfaceSync.Proofs.HostText
import InterfaceSync.Proofs.NormalUrls
import InterfaceSync.Proofs.Endpoints
import InterfaceSync.Proofs.ReportedNames
import InterfaceSync.Proofs.DocumentVersions
import InterfaceSync.Proofs.FailureRecords
import InterfaceSync.Proofs.SavedSettings
