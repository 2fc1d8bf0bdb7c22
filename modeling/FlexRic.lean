import FlexRic.Lib.Machine
import FlexRic.Lib.Comparator
import FlexRic.Lib.OrdAssoc
import FlexRic.Ds.Bimap
import FlexRic.E2ap.Ids
import FlexRic.Ric.NearRic
import FlexRic.Ric.System
import FlexRic.Ric.PendingEvents
import FlexRic.IApp.MapRicId
import FlexRic.IApp.Tables
import FlexRic.IApp.System
import FlexRic.Ric.Requests
import FlexRic.IApp.Steps
import FlexRic.IApp.Invariants
import FlexRic.IApp.Bijection
import FlexRic.IApp.Isolation
import FlexRic.IApp.Indications
import FlexRic.IApp.ControlRoundTrip
import FlexRic.IApp.Routing
import FlexRic.IApp.Delivery
import FlexRic.Ric.RequestIds
import FlexRic.IApp.RequestIds
import FlexRic.XApp.Tables
import FlexRic.XApp.System
import FlexRic.XApp.Steps
import FlexRic.XApp.Invariants
import FlexRic.XApp.PendingEvents
import FlexRic.XApp.SyncCalls
import FlexRic.Agent.E2Agent
import FlexRic.Agent.System
import FlexRic.Agent.Subscriptions
import FlexRic.Agent.SetupTimer
import FlexRic.Agent.AperiodicEvents
import FlexRic.Lib.Count
import FlexRic.E2ap.NodeIds
import FlexRic.Ric.Nodes
import FlexRic.Ric.NodeRegistries
import FlexRic.IApp.Xapps
import FlexRic.IApp.XappIdentity
import FlexRic.IApp.XappAddresses
import FlexRic.IApp.SubscribeAtomic
import FlexRic.Lib.Mutex
import FlexRic.IApp.ForwardLock
import FlexRic.Ds.SeqRing
import FlexRic.TaskMan.NotQ
import FlexRic.TaskMan.System
import FlexRic.TaskMan.Steps
import FlexRic.TaskMan.Invariants
import FlexRic.TaskMan.Shutdown
import FlexRic.TaskMan.ExactlyOnce
import FlexRic.Lib.Walk
import FlexRic.Lib.Allocator
import FlexRic.Lib.Carries
import FlexRic.Codec.RicTypes
import FlexRic.Codec.RicEnc
import FlexRic.Codec.RicDec
import FlexRic.Codec.RicTransfer
import FlexRic.Codec.RicItems
import FlexRic.Codec.E42Nodes
import FlexRic.Codec.SubscriptionRoundTrip
import FlexRic.Codec.ServiceRoundTrip
import FlexRic.Codec.ConnectedNodes
import FlexRic.Codec.NodeDiscovery
import FlexRic.Lib.Bits
import FlexRic.Codec.Conversions
import FlexRic.Codec.Pdu
import FlexRic.Codec.SetupTypes
import FlexRic.Codec.SetupEnc
import FlexRic.Codec.SetupDec
import FlexRic.Codec.SetupItems
import FlexRic.Codec.SetupLists
import FlexRic.Codec.SetupRoundTrip
import FlexRic.Lib.Octets
import FlexRic.Ue.UeIdTypes
import FlexRic.Ue.Conversions
import FlexRic.Ue.UeIdCodec
import FlexRic.Ue.RoundTrip
import FlexRic.Kpm.KpmDec
import FlexRic.Kpm.KpmValues
import FlexRic.Lib.Doubles
import FlexRic.Lib.Compare
import FlexRic.Ue.UeIdValues
import FlexRic.Ue.CellGlobalId
import FlexRic.Ue.Identifiers
import FlexRic.Kpm.KpmTypes
import FlexRic.Kpm.KpmEnc
import FlexRic.Kpm.Arrival
import FlexRic.Kpm.Domains
import FlexRic.Ue.UeIdConstraints
import FlexRic.Kpm.FunctionDef
import FlexRic.Kpm.Constraints
import FlexRic.Kpm.RoundTrip
import FlexRic.Ric.PubSub
import FlexRic.Lib.Plain
import FlexRic.Sm.SliceTypes
import FlexRic.Sm.SlicePlain
import FlexRic.Sm.SliceRoundTrip
import FlexRic.Sm.TcTypes
import FlexRic.Sm.TcIndPlain
import FlexRic.Sm.TcIndRoundTrip
import FlexRic.Sm.TcCtrlPlain
import FlexRic.Sm.TcCtrlRoundTrip
import FlexRic.Lib.Layout
import FlexRic.Sm.StatsTypes
import FlexRic.Sm.StatsPlain
import FlexRic.Sm.DecoderSafety
import FlexRic.Lib.Copies
import FlexRic.Sm.StatsCopies
import FlexRic.Sm.SliceCopies
import FlexRic.Sm.TcCopies
import FlexRic.Sm.Copies
import FlexRic.Sm.CtrlOutcomes
import FlexRic.Agent.IndicationContent
import FlexRic.Agent.LiveIndications
import FlexRic.Agent.RicAgents
import FlexRic.Agent.OneIndication
import FlexRic.Agent.Registry
import FlexRic.Agent.RegistryRuns
import FlexRic.Ds.Keys
import FlexRic.Lib.RbTree
import FlexRic.Ds.AssocRbTree
import FlexRic.Ds.LinkedTree
import FlexRic.Ds.RbSearch
import FlexRic.Ds.RbInsert
import FlexRic.Lib.Ints
import FlexRic.Ds.SeqArr
import FlexRic.Lib.Borders
import FlexRic.Ds.ShiftTables
import FlexRic.Ds.BooyerMoore
import FlexRic.Ds.RingFifo
import FlexRic.Ds.HashTab
import FlexRic.Ds.HashTabMap
import FlexRic.Ds.AssocReg
import FlexRic.Ds.RegSearch
import FlexRic.Ds.RegMap
import FlexRic.Ds.RbDelete
import FlexRic.Ds.RbExtract
import FlexRic.Ds.RbIterate
import FlexRic.Ds.RbRuns
import FlexRic.Ds.BimapTrees
import FlexRic.Lib.Format
import FlexRic.IApp.SliceText
import FlexRic.Sm.StatsImages
import FlexRic.Lib.Answers
import FlexRic.Sm.StatsComparisons
import FlexRic.Sm.SliceComparisons
import FlexRic.Sm.Comparisons
import FlexRic.Lib.Plans
import FlexRic.Ue.UeIdPlans
import FlexRic.Kpm.KpmPlans
import FlexRic.Kpm.Comparisons
import FlexRic.Codec.MessageValues
import FlexRic.Codec.MessageComparisons
import FlexRic.Rc.RcTypes
import FlexRic.Rc.ParamValues
import FlexRic.Rc.RcValues
import FlexRic.Rc.ParamPlans
import FlexRic.Rc.EventTriggerPlans
import FlexRic.Rc.ActionPlans
import FlexRic.Rc.MessagePlans
import FlexRic.Rc.FuncDefPlans
import FlexRic.Lib.Yields
import FlexRic.Rc.ParamCopies
import FlexRic.Rc.EventTriggerCopies
import FlexRic.Rc.ActionCopies
import FlexRic.Rc.MessageCopies
import FlexRic.Rc.FuncDefCopies
import FlexRic.Rc.Comparisons
import FlexRic.Lib.Conveys
import FlexRic.Rc.ParamCodec
import FlexRic.Rc.ParamTransfer
import FlexRic.Rc.EventTriggerCodec
import FlexRic.Rc.EventTriggerTransfer
import FlexRic.Rc.ActionCodec
import FlexRic.Rc.ActionTransfer
import FlexRic.Rc.Subscription
import FlexRic.Rc.FuncDefCodec
import FlexRic.Rc.FuncDefTransfer
import FlexRic.Rc.Domains
import FlexRic.Rc.MessageCodec
import FlexRic.Rc.MessageTransfer
import FlexRic.Rc.Messages
import FlexRic.XApp.NotifyQueue
import FlexRic.XApp.NotifyRuns
import FlexRic.Lib.Delay
import FlexRic.Link.Interface
import FlexRic.Link.Procedures
import FlexRic.Ric.Subscriptions
import FlexRic.Link.Views
import FlexRic.Link.Agreement
import FlexRic.Codec.Paths
import FlexRic.Codec.AnswerPaths
