import RustlsFfi.Base.Control
import RustlsFfi.Base.Triple
import RustlsFfi.Base.Utf8
import RustlsFfi.Base.Arena
import RustlsFfi.Base.Counting
import RustlsFfi.Base.BoundedMap
import RustlsFfi.Base.Slots
import RustlsFfi.Base.Marked
import RustlsFfi.Base.Checks
import RustlsFfi.Base.Pem
import RustlsFfi.Base.Probe
import RustlsFfi.Base.Memory
import RustlsFfi.Base.Code
import RustlsFfi.Model.Error
import RustlsFfi.Model.Slice
import RustlsFfi.Model.Userdata
import RustlsFfi.Model.World
import RustlsFfi.Model.Io
import RustlsFfi.Model.Rustls
import RustlsFfi.Model.Cast
import RustlsFfi.Model.Cipher
import RustlsFfi.Model.Connection
import RustlsFfi.Model.Client
import RustlsFfi.Model.Server
import RustlsFfi.Model.Rules
import RustlsFfi.Model.Callback
import RustlsFfi.Model.Report
import RustlsFfi.Model.Api
import RustlsFfi.Userdata.CallTree
import RustlsFfi.Userdata.Guards
import RustlsFfi.Stream.Outgoing
import RustlsFfi.Lifetime.Ledger
import RustlsFfi.Keys.CertifiedKey
import RustlsFfi.Lifetime.Calls
import RustlsFfi.Lifetime.Programs
import RustlsFfi.Lifetime.Destructors
import RustlsFfi.Verify.Verdict
import RustlsFfi.Contract.Outputs
import RustlsFfi.Contract.Texts
import RustlsFfi.Contract.Failures
import RustlsFfi.Contract.NullSafety
import RustlsFfi.Contract.Footprint
import RustlsFfi.Lifetime.Safety
import RustlsFfi.Session.Broker
import RustlsFfi.Stream.Plaintext
import RustlsFfi.Stream.EndToEnd
import RustlsFfi.Stream.Duplex
import RustlsFfi.Config.Setters
import RustlsFfi.Config.ServerBuilder
import RustlsFfi.Config.ClientBuilder
import RustlsFfi.Config.CustomSuites
import RustlsFfi.Keys.Selection
import RustlsFfi.Roots.AddPem
import RustlsFfi.Demo.Common
import RustlsFfi.Demo.Parse
import RustlsFfi.Demo.Copy
import RustlsFfi.Demo.Steps
import RustlsFfi.Demo.Client
import RustlsFfi.Demo.Server
import RustlsFfi.Demo.Exchange
import RustlsFfi.Demo.Ownership
import RustlsFfi.Demo.Accept
