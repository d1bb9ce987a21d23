import RouteNetlink.Attribute.Value
import RouteNetlink.Vocabulary.Family

/-! The forms in which payloads arrive. Most have a fixed width, and a payload of another
width is a fault. -/
namespace RouteNetlink

inductive Form where
  | i8
  | i16
  | i32
  | i64
  | u8
  | u16
  | u32
  | u64
  | text
  /-- An address as wide as its family asks for; where the family asks for nothing, the
  width tells what kind of address it is. -/
  | address (family : Family)
  | ip6
  | operState
  | addressFlags
  | inet6LinkFlags
  | counters32
  | counters64
  | addressCacheInfo
  | neighborCacheInfo
  | routeCacheInfo
  | inet6CacheInfo
  | inetSettings
  | inet6Settings
  | raw
  deriving DecidableEq

namespace Form

def words? : List UInt8 → Option (List UInt32)
  | [] => some []
  | a :: b :: c :: d :: rest => (words? rest).map (Layout.u32.decode [a, b, c, d] :: ·)
  | _ => none

/-- At least one word, and nothing left over. -/
def wordTable? (bs : List UInt8) : Option (List UInt32) :=
  if bs = [] then none else words? bs

def decodeSettings (bs : List UInt8) : Except Fault (List UInt32) :=
  match wordTable? bs with
  | some values => .ok values
  | none => .error (.invalidAttribute (.deviceConfigSize bs.length))

def addressWidth? (family : Family) : Option Nat :=
  if family = Family.inet then some 4
  else if family = Family.inet6 then some 16
  else none

def addressOfWidth (bs : List UInt8) : Value :=
  match bs.length with
  | 4 => .ip4 (Ipv4.layout.decode bs)
  | 16 => .ip6 (Ipv6.layout.decode bs)
  | 6 => .ethernet (Ethernet.layout.decode bs)
  | _ => .raw bs

def decodeAddress (family : Family) (bs : List UInt8) : Except Fault Value :=
  match addressWidth? family with
  | some width =>
    if bs.length = width then .ok (addressOfWidth bs) else .error (.truncated width bs.length)
  | none => .ok (addressOfWidth bs)

/-- Counters past the known ones are ignored; every other fixed form takes its width and
no other. -/
def decode : Form → List UInt8 → Except Fault Value
  | i8, bs => (Layout.i8.exactly bs).map .i8
  | i16, bs => (Layout.i16.exactly bs).map .i16
  | i32, bs => (Layout.i32.exactly bs).map .i32
  | i64, bs => (Layout.i64.exactly bs).map .i64
  | u8, bs => (Layout.u8.exactly bs).map .u8
  | u16, bs => (Layout.u16.exactly bs).map .u16
  | u32, bs => (Layout.u32.exactly bs).map .u32
  | u64, bs => (Layout.u64.exactly bs).map .u64
  | text, bs => .ok (.text (Utf8.decodeTerminated bs))
  | address family, bs => decodeAddress family bs
  | ip6, bs => (Ipv6.layout.exactly bs).map .ip6
  | operState, bs => (Layout.u8.exactly bs).map .operState
  | addressFlags, bs => (Layout.u32.exactly bs).map .addressFlags
  | inet6LinkFlags, bs => (Layout.u32.exactly bs).map .inet6LinkFlags
  | counters32, bs => (Counters.layout32.leading bs).map .counters32
  | counters64, bs => (Counters.layout64.leading bs).map .counters64
  | addressCacheInfo, bs => (AddressCacheInfo.layout.exactly bs).map .addressCacheInfo
  | neighborCacheInfo, bs => (NeighborCacheInfo.layout.exactly bs).map .neighborCacheInfo
  | routeCacheInfo, bs => (RouteCacheInfo.layout.exactly bs).map .routeCacheInfo
  | inet6CacheInfo, bs => (Inet6CacheInfo.layout.exactly bs).map .inet6CacheInfo
  | inetSettings, bs => (decodeSettings bs).map .inetSettings
  | inet6Settings, bs => (decodeSettings bs).map .inet6Settings
  | raw, bs => .ok (.raw bs)

end Form
end RouteNetlink
