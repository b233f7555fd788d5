import PixelStatus.Core.AggregatePriority
import PixelStatus.Core.Appearance
import PixelStatus.Core.BarValues
import PixelStatus.Core.Basic
import PixelStatus.Core.BoundedBypass
import PixelStatus.Core.BoundedPumps
import PixelStatus.Core.Color
import PixelStatus.Core.ColorMixtures
import PixelStatus.Core.Config.Appearances
import PixelStatus.Core.Config.Cards
import PixelStatus.Core.Config.DeclaredAppearances
import PixelStatus.Core.Config.DurationGrammar
import PixelStatus.Core.Config.Evaluation
import PixelStatus.Core.Config.ExplicitLayouts
import PixelStatus.Core.Config.ExplicitWidgets
import PixelStatus.Core.Config.Fields
import PixelStatus.Core.Config.HttpMonitors
import PixelStatus.Core.Config.LayoutGeometry
import PixelStatus.Core.Config.LayoutTree
import PixelStatus.Core.Config.LayoutTreeFits
import PixelStatus.Core.Config.LayoutWidgetSchema
import PixelStatus.Core.Config.Load
import PixelStatus.Core.Config.LoadedIntegers
import PixelStatus.Core.Config.LoadedTexts
import PixelStatus.Core.Config.Monitors
import PixelStatus.Core.Config.PlacedTree
import PixelStatus.Core.Config.ReadCards
import PixelStatus.Core.Config.ReaderAgreement
import PixelStatus.Core.Config.RequiredStatuses
import PixelStatus.Core.Config.SchemaContainment
import PixelStatus.Core.Config.SchemaReaders
import PixelStatus.Core.Config.SplitGeometry
import PixelStatus.Core.Config.Types
import PixelStatus.Core.Config.Widgets
import PixelStatus.Core.Config.WidgetsFit
import PixelStatus.Core.Config.WrittenIntegers
import PixelStatus.Core.Decimal
import PixelStatus.Core.DeckTimeline
import PixelStatus.Core.DigitValues
import PixelStatus.Core.DrawingSteps
import PixelStatus.Core.Evaluator
import PixelStatus.Core.ExactComparisons
import PixelStatus.Core.Frame
import PixelStatus.Core.FrameReuse
import PixelStatus.Core.GridCells
import PixelStatus.Core.GridTiling
import PixelStatus.Core.HttpUrl
import PixelStatus.Core.Json
import PixelStatus.Core.JsonSchema
import PixelStatus.Core.JsonText
import PixelStatus.Core.MissingSources
import PixelStatus.Core.MonitorConcurrency
import PixelStatus.Core.MonitorEngine
import PixelStatus.Core.MonitorResults
import PixelStatus.Core.MonitorSchedule
import PixelStatus.Core.NamedSources
import PixelStatus.Core.Pictures
import PixelStatus.Core.PixelLocality
import PixelStatus.Core.Rectangles
import PixelStatus.Core.RenderAccepted
import PixelStatus.Core.RenderStatuses
import PixelStatus.Core.Renderer
import PixelStatus.Core.RequestText
import PixelStatus.Core.ShownSources
import PixelStatus.Core.SlideWindows
import PixelStatus.Core.SourcedClock
import PixelStatus.Core.StagedTimelines
import PixelStatus.Core.State
import PixelStatus.Core.StateHistory
import PixelStatus.Core.StatusApi
import PixelStatus.Core.StatusApiAtomicity
import PixelStatus.Core.StatusApiAuthorization
import PixelStatus.Core.StatusApiCapacity
import PixelStatus.Core.StatusApiLinearizable
import PixelStatus.Core.StatusApiReadable
import PixelStatus.Core.StatusApiValues
import PixelStatus.Core.StoredFrame
import PixelStatus.Core.TransitionPictures
import PixelStatus.Core.UrlParts
import PixelStatus.Core.WidgetLayers
import PixelStatus.Host.CommandLine
import PixelStatus.Host.CommandLineGrammar
import PixelStatus.Host.DisplayCounts
import PixelStatus.Host.ExecutorRuns
import PixelStatus.Host.ExecutorStop
import PixelStatus.Host.HttpBodies
import PixelStatus.Host.HttpDisplayDriver
import PixelStatus.Host.HttpMonitorRunner
import PixelStatus.Host.HttpTransports
import PixelStatus.Host.MonitorExecutor
import PixelStatus.Host.MonitorRunnerFactory
import PixelStatus.Host.MonitoredDisplay
import PixelStatus.Host.NetworkRunners
import PixelStatus.Host.Program
import PixelStatus.Host.ProgramRuns
import PixelStatus.Host.ReadableMonitors
import PixelStatus.Host.Registration
import PixelStatus.Host.SecretHeaders
import PixelStatus.Host.Simulator
import PixelStatus.Host.SimulatorRuns
import PixelStatus.Host.SocketTransport
import PixelStatus.Host.StartUp
import PixelStatus.Host.TcpExchange
import PixelStatus.Logic.Checked
import PixelStatus.Logic.Counted
import PixelStatus.Logic.Cuts
import PixelStatus.Logic.FirstSeen
import PixelStatus.Logic.Gauge
import PixelStatus.Logic.Layers
import PixelStatus.Logic.Lease
import PixelStatus.Logic.LeastRank
import PixelStatus.Logic.Logged
import PixelStatus.Logic.Nearest
import PixelStatus.Logic.NearestEven
import PixelStatus.Logic.Outcome
import PixelStatus.Logic.Overwrite
import PixelStatus.Logic.Pacer
import PixelStatus.Logic.Pending
import PixelStatus.Logic.RefreshLoop
import PixelStatus.Logic.Scatter
import PixelStatus.Logic.Segments
import PixelStatus.Logic.SignedWord
import PixelStatus.Logic.SortedSets
import PixelStatus.Logic.SplitFirst
import PixelStatus.Logic.SquareSymmetry
import PixelStatus.Logic.TickClock
import PixelStatus.Logic.Timeline
import PixelStatus.Logic.Trace
import PixelStatus.Logic.TrailingRun
import PixelStatus.Logic.Transition
import PixelStatus.Tools.Collectors.ClaudeUsage
import PixelStatus.Tools.Collectors.NeverStale
import PixelStatus.Tools.Collectors.OpenWrt
import PixelStatus.Tools.Collectors.PinnedClient
import PixelStatus.Tools.Collectors.Runtime
import PixelStatus.Tools.Collectors.SnapshotStore
import PixelStatus.Tools.Collectors.UniFi
import PixelStatus.Tools.MiBle.Bridge
import PixelStatus.Tools.MiBle.Display
import PixelStatus.Tools.MiBle.EtagCoherence
import PixelStatus.Tools.MiBle.FrameCodec
import PixelStatus.Tools.MiBle.FrameSource
import PixelStatus.Tools.MiBle.NewestFrame
import PixelStatus.Tools.MiBle.Orientation
import PixelStatus.Tools.MiBle.PanelPicture
import PixelStatus.Tools.MiBle.PollSource
import PixelStatus.Tools.MiBle.Protocol
import PixelStatus.Tools.Python
