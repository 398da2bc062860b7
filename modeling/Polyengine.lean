import Polyengine.Intrinsics.FutureProperties
import Polyengine.Cabi.Flatten
import Polyengine.Cabi.Float
import Polyengine.Cabi.Lanes
import Polyengine.Cabi.LiftSafety
import Polyengine.Cabi.LoadResults
import Polyengine.Cabi.StoreProperties
import Polyengine.Cabi.Custody
import Polyengine.Library.Emission
import Polyengine.Cabi.Handles
import Polyengine.Cabi.LowerLaw
import Polyengine.Cabi.StoreEmissions
import Polyengine.Cabi.CustodyCleanup
import Polyengine.Cabi.LowerEmissions
import Polyengine.Cabi.CustodyPairing
import Polyengine.Cabi.Signatures
import Polyengine.Exec.LoweredImport
import Polyengine.Task.Task
import Polyengine.Intrinsics.SubtaskCall
import Polyengine.Intrinsics.SubtaskNotification
import Polyengine.Exec.ResultDelivery
import Polyengine.Cabi.LowerFrame
import Polyengine.Exec.DeliveryInterference
import Polyengine.Exec.DeliveryTransfer
import Polyengine.Exec.DeliveryCleanup
import Polyengine.Exec.DeliverySettlement
import Polyengine.Embedder.Resources
import Polyengine.Wasi.FsCapabilities
import Polyengine.Library.Splice
import Polyengine.Wasi.FileStreams
import Polyengine.Wasi.HttpSend
import Polyengine.Wasi.HttpTransmission
import Polyengine.Embedder.HostResourceRegistry
import Polyengine.Embedder.ResourceLifecycle
import Polyengine.Exec.CorePlan
import Polyengine.Exec.RunInitializers
import Polyengine.Exec.Suspendability
import Polyengine.Exec.SuspendableFuncs
import Polyengine.Exec.SuspensionEntries
import Polyengine.Library.Double
import Polyengine.Embedder.ComponentValues
import Polyengine.Embedder.ValueMapping
import Polyengine.Embedder.MappingSafety
import Polyengine.Embedder.MappingConditions
import Polyengine.Embedder.SafeMappings
import Polyengine.Library.Reentrant
import Polyengine.Cabi.BulkLists
import Polyengine.Wasi.TcpShutdown
import Polyengine.Wasi.SocketAddress
import Polyengine.Wasi.UdpStreams
import Polyengine.Wasi.TcpSocket02
import Polyengine.Library.Polling
import Polyengine.Wasi.Pollables
import Polyengine.Protocol.Cloneable
import Polyengine.Protocol.CloneableRoundTrip
import Polyengine.Task.ActivationBrackets
import Polyengine.Task.ResumptionGate
import Polyengine.Library.Ownership
import Polyengine.Wasi.TcpOwnership02
import Polyengine.Wasi.TcpOwnership
import Polyengine.Bindgen.Codegen
import Polyengine.Bindgen.AgreementConditions
import Polyengine.Wasi.FedInputStream
import Polyengine.Wasi.SinkOutputStream
import Polyengine.Wasi.StreamSplice
import Polyengine.Embedder.Version
import Polyengine.Embedder.ImportResolution
import Polyengine.Embedder.RegistrationOrder
import Polyengine.Embedder.TrackSoundness
import Polyengine.Intrinsics.Transcode
import Polyengine.Intrinsics.TranscodeUtf8
import Polyengine.Intrinsics.TranscodeCompact
import Polyengine.Wasi.FieldTransparency
import Polyengine.Library.UrlParts
import Polyengine.Wasi.HttpTarget
import Polyengine.Library.Numeral
import Polyengine.Wasi.AddressForms
import Polyengine.Embedder.NameCollisions
import Polyengine.Embedder.TrackSpelling
import Polyengine.Wasi.TcpListener
import Polyengine.Exec.HostSettlement
import Polyengine.Exec.HostCallLifecycle
import Polyengine.Jspi.SuspensionInvariant
import Polyengine.Jspi.SuspensionSettlement
import Polyengine.Jspi.SuspensionRuns
import Polyengine.Wasi.FilesystemWeb
import Polyengine.Wasi.FilesystemWebSafety
import Polyengine.Library.FileTree
import Polyengine.Wasi.FilesystemNode
import Polyengine.Wasi.ObjectIdentity
import Polyengine.Wasi.OpenFlags
import Polyengine.Wasi.OpenAgreement
import Polyengine.Cabi.ReallocRecord
import Polyengine.Cabi.StringExactness
import Polyengine.Cabi.LayoutCache
import Polyengine.Cabi.TableRuns
import Polyengine.Cabi.LayoutSoundness
import Polyengine.Cabi.TypeEquality
import Polyengine.Cabi.TypeInterchange
import Polyengine.Wasi.CliStdio
import Polyengine.Wasi.UdpReceive
import Polyengine.Wasi.FileReads
import Polyengine.Cache.Key
import Polyengine.Library.Base64
import Polyengine.Library.Process
import Polyengine.Cache.Core
import Polyengine.Cache.Dir
import Polyengine.Cache.DirTransparency
import Polyengine.Cache.Web
import Polyengine.Cache.Transparency
import Polyengine.Bindgen.DeclarationTexts
import Polyengine.Bindgen.DeclarationNames
