import RouteNetlink.Address.Ethernet
import RouteNetlink.Address.Ip
import RouteNetlink.Attribute.CacheInfo
import RouteNetlink.Attribute.Counters
import RouteNetlink.Text.FlagNames
import RouteNetlink.Text.Utf8
import RouteNetlink.Vocabulary.Flags

/-! What the payload of an attribute says when it is not a table of attributes. -/
namespace RouteNetlink

inductive Value where
  | i8 (n : Int8)
  | i16 (n : Int16)
  | i32 (n : Int32)
  | i64 (n : Int64)
  | u8 (n : UInt8)
  | u16 (n : UInt16)
  | u32 (n : UInt32)
  | u64 (n : UInt64)
  | text (s : String)
  | ethernet (address : Ethernet)
  | ip4 (address : Ipv4)
  | ip6 (address : Ipv6)
  | operState (code : UInt8)
  | addressFlags (bits : UInt32)
  | inet6LinkFlags (bits : UInt32)
  | counters32 (counters : Counters UInt32)
  | counters64 (counters : Counters UInt64)
  | addressCacheInfo (info : AddressCacheInfo)
  | neighborCacheInfo (info : NeighborCacheInfo)
  | routeCacheInfo (info : RouteCacheInfo)
  | inet6CacheInfo (info : Inet6CacheInfo)
  | inetSettings (values : List UInt32)
  | inet6Settings (values : List UInt32)
  | raw (bytes : List UInt8)
  deriving DecidableEq

namespace Value

def size : Value → Nat
  | i8 _ | u8 _ | operState _ => 1
  | i16 _ | u16 _ => 2
  | i32 _ | u32 _ | addressFlags _ | inet6LinkFlags _ | ip4 _ => 4
  | i64 _ | u64 _ => 8
  | text s => s.utf8ByteSize + 1
  | ethernet _ => 6
  | ip6 _ | addressCacheInfo _ | neighborCacheInfo _ | inet6CacheInfo _ => 16
  | routeCacheInfo _ => 32
  | counters32 _ => 92
  | counters64 _ => 184
  | inetSettings values | inet6Settings values => 4 * values.length
  | raw bytes => bytes.length

/-- Text ends with a zero byte; all else is written as it is laid out. -/
def encode : Value → List UInt8
  | i8 n => Layout.i8.encode n
  | i16 n => Layout.i16.encode n
  | i32 n => Layout.i32.encode n
  | i64 n => Layout.i64.encode n
  | u8 n => Layout.u8.encode n
  | u16 n => Layout.u16.encode n
  | u32 n => Layout.u32.encode n
  | u64 n => Layout.u64.encode n
  | text s => Utf8.encode s ++ [0]
  | ethernet address => Ethernet.layout.encode address
  | ip4 address => Ipv4.layout.encode address
  | ip6 address => Ipv6.layout.encode address
  | operState code => Layout.u8.encode code
  | addressFlags bits => Layout.u32.encode bits
  | inet6LinkFlags bits => Layout.u32.encode bits
  | counters32 counters => Counters.layout32.encode counters
  | counters64 counters => Counters.layout64.encode counters
  | addressCacheInfo info => AddressCacheInfo.layout.encode info
  | neighborCacheInfo info => NeighborCacheInfo.layout.encode info
  | routeCacheInfo info => RouteCacheInfo.layout.encode info
  | inet6CacheInfo info => Inet6CacheInfo.layout.encode info
  | inetSettings values => values.flatMap Layout.u32.encode
  | inet6Settings values => values.flatMap Layout.u32.encode
  | raw bytes => bytes

/-- Settings that are not zero, by name where the position has one. -/
def settingsOutline (names : Vocabulary) (values : List UInt32) : List Outline :=
  values.zipIdx.filterMap fun (value, i) =>
    if value = 0 then none else some (.field (names.label i) (toString value))

/-- One line, or none where the value takes a line for each of its fields. -/
def line? : Value → Option String
  | i8 n => some (toString n)
  | i16 n => some (toString n)
  | i32 n => some (toString n)
  | i64 n => some (toString n)
  | u8 n => some (toString n)
  | u16 n => some (toString n)
  | u32 n => some (toString n)
  | u64 n => some (toString n)
  | text s => some s
  | ethernet address => some address.text
  | ip4 address => some address.text
  | ip6 address => some address.text
  | operState code => some (Vocabulary.operState.label code.toNat)
  | addressFlags bits => some (FlagNames.address.text bits.toUInt64)
  | inet6LinkFlags bits => some (FlagNames.inet6Link.text bits.toUInt64)
  | raw bytes => some (Hex.bytes bytes)
  | counters32 _ | counters64 _ | addressCacheInfo _ | neighborCacheInfo _ | routeCacheInfo _
  | inet6CacheInfo _ | inetSettings _ | inet6Settings _ => none

def outline : Value → List Outline
  | counters32 counters => counters.widen.outline
  | counters64 counters => counters.outline
  | addressCacheInfo info => info.outline
  | neighborCacheInfo info => info.outline
  | routeCacheInfo info => info.outline
  | inet6CacheInfo info => info.outline
  | inetSettings values => settingsOutline Vocabulary.inetSetting values
  | inet6Settings values => settingsOutline Vocabulary.inet6Setting values
  | value => (value.line?.map Outline.line).toList

end Value
end RouteNetlink
