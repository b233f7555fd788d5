/-
# The configuration

What the loader hands to the rest of the program. The rectangle fields that the
widget records repeat are one parent structure here; every other record and
every default is the source's.
-/

import PixelStatus.Core.Appearance
import PixelStatus.Core.Evaluator

namespace PixelStatus

structure DisplayConfig where
  width : Nat := 16
  height : Nat := 16
  background : Rgb := {}
  deriving DecidableEq

/-- The rectangle of a widget or of a node of a layout tree. -/
structure LayoutBounds where
  x : Nat := 0
  y : Nat := 0
  width : Nat := 0
  height : Nat := 0
  deriving DecidableEq

structure IndicatorConfig extends LayoutBounds where
  id : Bytes
  source : Bytes
  width := 1
  height := 1
  deriving DecidableEq

inductive CardTransition
  | instant
  | fade
  | slideLeft
  | slideRight
  | slideUp
  | slideDown
  deriving DecidableEq

structure CardTransitionConfig where
  type : CardTransition := .instant
  duration : Duration := 0
  deriving DecidableEq

structure BitmapCardConfig where
  palette : UnorderedMap UInt8 Rgb := ∅
  pixels : List Bytes := []

structure ClockCardConfig where
  localColor : Rgb := { r := 0x00, g := 0xB0, b := 0xFF }
  utcColor : Rgb := { r := 0xFF, g := 0xD6, b := 0x00 }
  deriving DecidableEq

structure IndicatorCardConfig where
  indicators : List IndicatorConfig := []
  deriving DecidableEq

inductive ClockTimeZone
  | local
  | utc
  deriving DecidableEq

/-- A clock shows its source's epoch seconds when it names a source, and the
wall time otherwise. -/
structure LayoutClockConfig extends LayoutBounds where
  id : Bytes
  width := 15
  height := 7
  timezone : ClockTimeZone := .local
  color : Rgb := { r := 0x00, g := 0xB0, b := 0xFF }
  source : Bytes := []
  deriving DecidableEq

inductive BarDirection
  | right
  | left
  | up
  | down
  deriving DecidableEq

structure LayoutBarConfig extends LayoutBounds where
  id : Bytes
  source : Bytes
  width := 1
  height := 1
  direction : BarDirection := .right
  minimum : Double := .finite 0
  maximum : Double := .finite 100
  trackColor : Rgb := {}
  deriving DecidableEq

structure LayoutStatusGridConfig extends LayoutBounds where
  id : Bytes
  sources : List Bytes := []
  width := 1
  height := 1
  columns : Nat := 1
  gap : Nat := 0
  deriving DecidableEq

structure LayoutAggregateStatusConfig extends LayoutBounds where
  id : Bytes
  sources : List Bytes := []
  priority : List Bytes := []
  colors : UnorderedMap Bytes Rgb := ∅
  width := 1
  height := 1
  defaultColor : Rgb := {}

structure LayoutBitmapConfig extends LayoutBounds where
  id : Bytes
  width := 1
  height := 1
  palette : UnorderedMap UInt8 Rgb := ∅
  pixels : List Bytes := []

inductive LayoutWidgetConfig
  | indicator (config : IndicatorConfig)
  | clock (config : LayoutClockConfig)
  | bar (config : LayoutBarConfig)
  | statusGrid (config : LayoutStatusGridConfig)
  | aggregateStatus (config : LayoutAggregateStatusConfig)
  | bitmap (config : LayoutBitmapConfig)

namespace LayoutWidgetConfig

/-- `std::visit` for the id, which every alternative has. -/
def id : LayoutWidgetConfig → Bytes
  | .indicator config => config.id
  | .clock config => config.id
  | .bar config => config.id
  | .statusGrid config => config.id
  | .aggregateStatus config => config.id
  | .bitmap config => config.id

def bounds : LayoutWidgetConfig → LayoutBounds
  | .indicator config => config.toLayoutBounds
  | .clock config => config.toLayoutBounds
  | .bar config => config.toLayoutBounds
  | .statusGrid config => config.toLayoutBounds
  | .aggregateStatus config => config.toLayoutBounds
  | .bitmap config => config.toLayoutBounds

end LayoutWidgetConfig

structure LayoutCardConfig where
  widgets : List LayoutWidgetConfig := []

inductive CardContentConfig
  | bitmap (config : BitmapCardConfig)
  | clock (config : ClockCardConfig)
  | indicators (config : IndicatorCardConfig)
  | layout (config : LayoutCardConfig)

structure CardConfig where
  id : Bytes
  hold : Duration := 5000
  transition : CardTransitionConfig := {}
  content : CardContentConfig

inductive HttpObservation
  | statusCode
  | body
  | jsonPointer
  | jsonArrayLength
  | jsonRatio
  deriving DecidableEq

inductive HttpMethod
  | get
  | head
  | post
  | put
  | patch
  | delete_
  deriving DecidableEq

structure HttpHeader where
  name : Bytes
  value : Bytes
  deriving DecidableEq

structure HttpMonitorConfig where
  url : Bytes := []
  method : HttpMethod := .get
  headers : List HttpHeader := []
  body : Bytes := []
  timeout : Duration := 2000
  maximumResponseBytes : Nat := 4 * 1024
  observation : HttpObservation := .statusCode
  jsonPointer : Bytes := []
  jsonDenominatorPointer : Bytes := []
  jsonScale : Double := .finite 1
  deriving DecidableEq

structure TcpConnectMonitorConfig where
  host : Bytes := []
  port : UInt16 := 0
  timeout : Duration := 2000
  deriving DecidableEq

structure IcmpPingMonitorConfig where
  host : Bytes := []
  timeout : Duration := 2000
  deriving DecidableEq

inductive TcpExchangeObservation
  | body
  | latencyMs
  deriving DecidableEq

structure TcpExchangeMonitorConfig where
  host : Bytes := []
  port : UInt16 := 0
  timeout : Duration := 2000
  send : Bytes := []
  readUntil : Bytes := []
  maximumResponseBytes : Nat := 4 * 1024
  observation : TcpExchangeObservation := .body
  deriving DecidableEq

inductive DnsAddressFamily
  | any
  | ipv4
  | ipv6
  deriving DecidableEq

inductive DnsObservation
  | addresses
  | addressCount
  | latencyMs
  deriving DecidableEq

structure DnsMonitorConfig where
  host : Bytes := []
  family : DnsAddressFamily := .any
  observation : DnsObservation := .addresses
  timeout : Duration := 2000
  deriving DecidableEq

inductive MonitorSourceConfig
  | http (config : HttpMonitorConfig)
  | tcpConnect (config : TcpConnectMonitorConfig)
  | icmpPing (config : IcmpPingMonitorConfig)
  | tcpExchange (config : TcpExchangeMonitorConfig)
  | dns (config : DnsMonitorConfig)
  deriving DecidableEq

structure PullMonitorConfig where
  id : Bytes
  interval : Duration := 0
  ttl : Option Duration := none
  evaluation : EvaluationPolicy := {}
  source : MonitorSourceConfig
  deriving DecidableEq

structure AppConfig where
  schemaVersion : Int32 := 1
  display : DisplayConfig := {}
  statuses : UnorderedMap Bytes TimelineAppearance := ∅
  monitors : List PullMonitorConfig := []
  indicators : List IndicatorConfig := []
  cards : List CardConfig := []

end PixelStatus
