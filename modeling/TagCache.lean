import TagCache.Client.Basic
import TagCache.Mock.Gate
import TagCache.Proofs.Attended
import TagCache.Proofs.Grace
import TagCache.Proofs.KeyOrder
import TagCache.Proofs.Rollback
import TagCache.Simulation.Command
import TagCache.Proofs.Accounting
import TagCache.Proofs.Described
import TagCache.Proofs.Arguments
import TagCache.Proofs.PointerText
import TagCache.Proofs.PortalViews
import TagCache.Proofs.Links
import TagCache.Proofs.FullScan
import TagCache.Proofs.ArrivalOrder
import TagCache.Proofs.FailedMutation
import TagCache.Proofs.Replay
import TagCache.Proofs.Walk
import TagCache.Proofs.RolePrediction
import TagCache.Proofs.Separable
import TagCache.Proofs.MemberOrder
import TagCache.Proofs.Provenance
import TagCache.Proofs.Results
import TagCache.Proofs.Triggers
import TagCache.Proofs.BaseUrl
import TagCache.Proofs.ResourceTypes
import TagCache.Proofs.Sending
import TagCache.Proofs.OrdinaryIds
import TagCache.Proofs.Description
