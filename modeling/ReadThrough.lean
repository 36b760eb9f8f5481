import ReadThrough.Cluster.Step
import ReadThrough.Config.Reader
import ReadThrough.Main
import ReadThrough.Proofs.SlabChain
import ReadThrough.Proofs.SlabWork
import ReadThrough.Proofs.SlabSequence
import ReadThrough.Proofs.SlotReuse
import ReadThrough.Proofs.SlotRefusal
import ReadThrough.Proofs.Reference
import ReadThrough.Proofs.EntryLists
import ReadThrough.Proofs.QueueContents
import ReadThrough.Proofs.ReferenceConservation
import ReadThrough.Proofs.ReferenceInvariant
import ReadThrough.Proofs.CacheRefinement
import ReadThrough.Proofs.CacheInvariant
import ReadThrough.Proofs.CacheWork
import ReadThrough.Proofs.CallRecord
import ReadThrough.Proofs.Visit
import ReadThrough.Proofs.EvictionOrder
import ReadThrough.Proofs.Admission
import ReadThrough.Proofs.EntryFate
import ReadThrough.Proofs.ScanResistance
import ReadThrough.Proofs.PercentGrammar
import ReadThrough.Proofs.PercentRoundTrip
import ReadThrough.Proofs.PathGrammar
import ReadThrough.Proofs.RequestPath
import ReadThrough.Proofs.PeerRequest
import ReadThrough.Proofs.Interleaving
import ReadThrough.Proofs.ServiceInvariant
import ReadThrough.Proofs.Transparency
import ReadThrough.Proofs.LongerUrl
import ReadThrough.Proofs.KeyRoundTrip
import ReadThrough.Proofs.ClockwiseOwner
import ReadThrough.Proofs.OwnerStability
import ReadThrough.Proofs.PlacingOrder
import ReadThrough.Proofs.PlacingAtOnce
import ReadThrough.Proofs.PeerChoice
import ReadThrough.Proofs.PeerSet
import ReadThrough.Proofs.KeyHomes
import ReadThrough.Proofs.OneHop
import ReadThrough.Proofs.GroupTraffic
import ReadThrough.Proofs.Provenance
import ReadThrough.Proofs.UnboundedShard
import ReadThrough.Proofs.LazyShard
import ReadThrough.Proofs.LoadOnce
import ReadThrough.Proofs.Confinement
import ReadThrough.Proofs.GroupIsolation
import ReadThrough.Proofs.BaseSpelling
import ReadThrough.Proofs.PlainLru
import ReadThrough.Proofs.MoreMemory
import ReadThrough.Proofs.LoneGet
import ReadThrough.Proofs.RequestOutcome
import ReadThrough.Proofs.JsonGrammar
import ReadThrough.Proofs.PassedOver
import ReadThrough.Proofs.PartialDocument
