import ArcRelay.Proofs.CommandCacheIsolation
import ArcRelay.Proofs.InputControlOwnership
import ArcRelay.Proofs.BlobStorePruning
import ArcRelay.Proofs.BlobStoreTickets
import ArcRelay.Proofs.RequestTracking
import ArcRelay.Proofs.RequestResponses
import ArcRelay.Proofs.RequestReuse
import ArcRelay.Proofs.ConnectionEvents
import ArcRelay.Proofs.ClipboardSyncLoss
import ArcRelay.Proofs.SubscriptionDelivery
import ArcRelay.Proofs.PairingGrants
import ArcRelay.Proofs.ScanBounds
import ArcRelay.Proofs.ScanCompleteness
import ArcRelay.Proofs.CollectionSwitches
import ArcRelay.Proofs.InputFrameOrder
import ArcRelay.Proofs.RemoteFilePaths
import ArcRelay.Proofs.CoverageOrder
import ArcRelay.Proofs.BlobStoreRejection
import ArcRelay.Proofs.InstallationIdentity
import ArcRelay.Proofs.RecordIsolation
import ArcRelay.Proofs.FeatureNegotiation
import ArcRelay.Proofs.ConnectionReplacement
import ArcRelay.Proofs.SyncAddresses
import ArcRelay.Server.SessionTasks
