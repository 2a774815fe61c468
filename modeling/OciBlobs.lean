import OciBlobs.Bytes
import OciBlobs.Bytes.Utf8
import OciBlobs.Bytes.Base64
import OciBlobs.Bytes.Sha256
import OciBlobs.Log.Size
import OciBlobs.Decimal.Shortest
import OciBlobs.Text.Quoted
import OciBlobs.Digest
import OciBlobs.Digest.Document
import OciBlobs.Json.Printer
import OciBlobs.Json.Reader.Structure
import OciBlobs.Settings.Document
import OciBlobs.Log
import OciBlobs.Run.Wait
import OciBlobs.Blob.Document
import OciBlobs.Command
import OciBlobs.Blob.Upload
import OciBlobs.Main
import OciBlobs.Proofs.Run.Frame
import OciBlobs.Proofs.Run.Wait
import OciBlobs.Proofs.Wire
import OciBlobs.Proofs.Run.Stall
import OciBlobs.Proofs.Blob.Bare
import OciBlobs.Proofs.Http.Header
import OciBlobs.Proofs.Blob.Upload
import OciBlobs.Proofs.Blob.Content
import OciBlobs.Proofs.Blob.Token
import OciBlobs.Caller
import OciBlobs.Proofs.Blob.Reading
import OciBlobs.Proofs.Json.Foretold
import OciBlobs.Proofs.Json.Value
import OciBlobs.Proofs.Blob.Document
import OciBlobs.Proofs.Caller
import OciBlobs.Proofs.Bytes.Utf8
import OciBlobs.Proofs.Url.Percent
import OciBlobs.Proofs.Url.Form
import OciBlobs.Proofs.Url.Path
import OciBlobs.Proofs.Registry.Location
import OciBlobs.Proofs.Blob.Presence
import OciBlobs.Proofs.Blob.Ways
import OciBlobs.Proofs.Scope.History
import OciBlobs.Proofs.Scope.Family
import OciBlobs.Proofs.Url.Host.Ipv4
import OciBlobs.Proofs.Url.Host.Ipv6
import OciBlobs.Proofs.Url.Host
import OciBlobs.Proofs.Url.Authority
import OciBlobs.Proofs.Url.Web
import OciBlobs.Proofs.Registry.Address
import OciBlobs.Proofs.Registry.Segment
import OciBlobs.Proofs.Run.Mirror
import OciBlobs.Proofs.Http.Credentials
import OciBlobs.Proofs.Caller.Credentials
import OciBlobs.Proofs.Bytes.Sha256
import OciBlobs.Proofs.Digest
import OciBlobs.Proofs.Registry.Name
import OciBlobs.Proofs.Files
import OciBlobs.Proofs.Output
import OciBlobs.Proofs.Command.Begin
import OciBlobs.Proofs.Command.Push
import OciBlobs.Proofs.Digest.Stream
import OciBlobs.Proofs.Client
import OciBlobs.Proofs.Command.Pull
import OciBlobs.Proofs.Command.Stdout
import OciBlobs.Proofs.Text.Digits
import OciBlobs.Proofs.Blob.Ends
import OciBlobs.Proofs.Command.Clock
import OciBlobs.Proofs.Command.Credentials
import OciBlobs.Proofs.Blob.Operate
import OciBlobs.Proofs.Log
import OciBlobs.Proofs.Caller.Log
import OciBlobs.Proofs.Command.Log
import OciBlobs.Proofs.Command.Fault
import OciBlobs.Proofs.Json.Reads
import OciBlobs.Proofs.Json.Scalar
import OciBlobs.Proofs.Json.Record
import OciBlobs.Proofs.Json.Checked
import OciBlobs.Proofs.Settings
import OciBlobs.Proofs.Digest.Grammar
import OciBlobs.Proofs.Log.Size
import OciBlobs.Proofs.Url.Relative
import OciBlobs.Proofs.Registry.Reference
import OciBlobs.Proofs.Registry.Scheme
