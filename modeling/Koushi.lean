import Koushi.Library.NestedMap
import Koushi.Library.Quota
import Koushi.Library.Text
import Koushi.Library.FencedSlots
import Koushi.Library.Run
import Koushi.Composer.Document
import Koushi.Composer.Target
import Koushi.Composer.DraftStore
import Koushi.Composer.DraftPersistence
import Koushi.Composer.DraftRefinement
import Koushi.Composer.DraftLoading
import Koushi.Composer.DraftInvariant
import Koushi.Composer.DraftRoundTrip
import Koushi.Composer.DraftFence
import Koushi.Library.Keyed
import Koushi.Reducer.LocalWork
import Koushi.Reducer.Registry
import Koushi.Reducer.State
import Koushi.Reducer.Navigation
import Koushi.Reducer.RoomList
import Koushi.Reducer.Composer
import Koushi.Reducer.Submission
import Koushi.Reducer.Panes
import Koushi.Reducer.Session
import Koushi.Reducer.Reduce
import Koushi.Reducer.ActiveRoom
import Koushi.Reducer.NavigationCoherence
import Koushi.Reducer.LocalWorkRetention
import Koushi.Reducer.Frames
import Koushi.Reducer.RegistrySteps
import Koushi.Reducer.SubmissionSurvival
import Koushi.Reducer.ExactlyOnce
import Koushi.Library.MirroredPanes
import Koushi.Reducer.ComposerPanes
import Koushi.Reducer.MirrorDrafts
import Koushi.Reducer.ComposerMirror
import Koushi.Search.DocumentStore
import Koushi.Search.Rows
import Koushi.Library.LatestWins
import Koushi.Search.StoreInvariant
import Koushi.Search.EditOrder
import Koushi.Composer.DraftLeases
import Koushi.Composer.LeaseAccounting
import Koushi.Composer.GuardedDrafts
import Koushi.Library.Ledger
import Koushi.Timeline.SendCompletion
import Koushi.Timeline.SendAccounting
import Koushi.Library.Rendezvous
import Koushi.Timeline.SendFrames
import Koushi.Timeline.SendOutcome
import Koushi.Renderer.StateUpdateConsumer
import Koushi.Renderer.LaneConsistency
import Koushi.Library.RowIndex
import Koushi.Library.VectorDiff
import Koushi.Timeline.DisplayItems
import Koushi.Renderer.TimelineStore
import Koushi.Timeline.DisplayMirror
import Koushi.Library.Treap
import Koushi.Library.CartesianTree
import Koushi.Timeline.DisplayMembership
import Koushi.Timeline.DisplayProjection
import Koushi.Timeline.MembershipLaws
import Koushi.Timeline.BatchTracking
import Koushi.Rooms.Summary
import Koushi.Rooms.Sidebar
import Koushi.Rooms.Projection
import Koushi.Rooms.Handlers
import Koushi.Rooms.SidebarGuard
import Koushi.Rooms.InstallLaws
import Koushi.Rooms.LocalRead
import Koushi.Rooms.ProjectionLaws
import Koushi.Rooms.Reduce
import Koushi.Rooms.Freshness
import Koushi.Rooms.Normalization
import Koushi.Rooms.OpenedScope
import Koushi.Delivery.Settings
import Koushi.Delivery.Credentials
import Koushi.Delivery.Digest
import Koushi.Delivery.Channel
import Koushi.Delivery.Dwell
import Koushi.Delivery.Keys
import Koushi.Reads.Engine
import Koushi.Reads.EngineSteps
import Koushi.Reads.Settlement
import Koushi.Library.Fairness
import Koushi.Work.Scheduler
import Koushi.Work.Admission
import Koushi.Work.Progress
import Koushi.Work.Conserving
import Koushi.Rooms.SidebarScope
import Koushi.Composer.Tombstones
import Koushi.Reducer.Exhaustion
import Koushi.Timeline.Residency
import Koushi.Rooms.RoomOrder
import Koushi.Rooms.Receipts
import Koushi.Rooms.IgnoredUsers
import Koushi.Reducer.SpaceOrder
import Koushi.Rooms.LateLoads
import Koushi.Timeline.Checkpoints
import Koushi.Timeline.Continuity
import Koushi.Reducer.EventNavigation
import Koushi.Settings.Split
import Koushi.Timeline.Subscriptions
