import ClusterLaunch.Curation
import ClusterLaunch.Main
import ClusterLaunch.Proofs.Acknowledgment
import ClusterLaunch.Proofs.Ascii
import ClusterLaunch.Proofs.CaptureName
import ClusterLaunch.Proofs.Catalogue
import ClusterLaunch.Proofs.CommandLine
import ClusterLaunch.Proofs.Container
import ClusterLaunch.Proofs.Counting
import ClusterLaunch.Proofs.Curation
import ClusterLaunch.Proofs.Digits
import ClusterLaunch.Proofs.Document
import ClusterLaunch.Proofs.Duration
import ClusterLaunch.Proofs.Failure
import ClusterLaunch.Proofs.Image
import ClusterLaunch.Proofs.Image.LookUp
import ClusterLaunch.Proofs.Interleaving
import ClusterLaunch.Proofs.Json.Closed
import ClusterLaunch.Proofs.Json.Frame
import ClusterLaunch.Proofs.Json.Gaps
import ClusterLaunch.Proofs.Json.Layout
import ClusterLaunch.Proofs.Json.Literal
import ClusterLaunch.Proofs.Json.Members
import ClusterLaunch.Proofs.Json.Placed
import ClusterLaunch.Proofs.Json.Record
import ClusterLaunch.Proofs.Json.Tokens
import ClusterLaunch.Proofs.Json.Tree
import ClusterLaunch.Proofs.Launch.Address
import ClusterLaunch.Proofs.Launch.Commands
import ClusterLaunch.Proofs.Launch.Composed
import ClusterLaunch.Proofs.Launch.Declared
import ClusterLaunch.Proofs.Launch.Naming
import ClusterLaunch.Proofs.Launch.Outcome
import ClusterLaunch.Proofs.Launch.Preview
import ClusterLaunch.Proofs.Launch.Record
import ClusterLaunch.Proofs.Launch.Search
import ClusterLaunch.Proofs.Launch.Stages
import ClusterLaunch.Proofs.Lengths
import ClusterLaunch.Proofs.Lines
import ClusterLaunch.Proofs.Lowercase
import ClusterLaunch.Proofs.Moment
import ClusterLaunch.Proofs.Numbers
import ClusterLaunch.Proofs.Octets
import ClusterLaunch.Proofs.Options
import ClusterLaunch.Proofs.Options.Fields
import ClusterLaunch.Proofs.Outputs
import ClusterLaunch.Proofs.QueueSearch
import ClusterLaunch.Proofs.Quoted
import ClusterLaunch.Proofs.Request
import ClusterLaunch.Proofs.Settings
import ClusterLaunch.Proofs.Shell.Encoding
import ClusterLaunch.Proofs.Shell.Octets
import ClusterLaunch.Proofs.Shell.Pattern
import ClusterLaunch.Proofs.Shell.Process
import ClusterLaunch.Proofs.Shell.Reader
import ClusterLaunch.Proofs.Shell.Route
import ClusterLaunch.Proofs.Shell.Storage
import ClusterLaunch.Proofs.Url.Domain
import ClusterLaunch.Proofs.Url.Host
import ClusterLaunch.Proofs.Url.Web
import ClusterLaunch.Session
import ClusterLaunch.Shell.Files
