import SmbClient.Runtime.Proof.Credits
import SmbClient.Runtime.Proof.NeverSent
import SmbClient.Runtime.Proof.Ownership
import SmbClient.Runtime.Proof.Await
import SmbClient.Runtime.Proof.Timer
import SmbClient.Runtime.Proof.Unhealthy
import SmbClient.Runtime.Proof.RecoveryEnd
import SmbClient.Session.Proof.Transcripts
import SmbClient.Resource.Proof.FileIo
import SmbClient.Resource.Proof.Close
import SmbClient.Resource.Proof.Open
import SmbClient.Connection.Proof.Negotiate
import SmbClient.Session.Proof.ServerError
import SmbClient.Domain.Proof.Recovering
import SmbClient.Runtime.Proof.Retries
import SmbClient.Runtime.Proof.Compounds
import SmbClient.Resource.Proof.Directory
import SmbClient.Runtime.Proof.Transforms
import SmbClient.Msg.Proof.Builder
import SmbClient.Msg.Proof.Chained
import SmbClient.Msg.Proof.Compressed
import SmbClient.Proof.Compression
import SmbClient.Security.Acl
import SmbClient.Rpc.Proof.Pdu
import SmbClient.Rpc.Connection
import SmbClient.Rpc.Ndr
import SmbClient.Runtime.CreditCharge
import SmbClient.Domain.Watch
import SmbClient.Domain.Operation
import SmbClient.Domain.Cursor
import SmbClient.Runtime.Metadata
import SmbClient.Msg.MetadataCursor
