import RouteNetlink.Message.Basic

/-! What attribute tables say about each kind of entity. -/
namespace RouteNetlink

namespace LinkEntity

def name? (attributes : Table) : Option String :=
  attributes.at? LinkKind.name >>= Attribute.asText?

def mtu? (attributes : Table) : Option UInt32 :=
  attributes.at? LinkKind.mtu >>= Attribute.asU32?

def address? (attributes : Table) : Option Ethernet :=
  attributes.at? LinkKind.address >>= Attribute.asEthernet?

/-- The index of the device that this one is a port of. -/
def master? (attributes : Table) : Option UInt32 :=
  attributes.at? LinkKind.master >>= Attribute.asU32?

def operState? (attributes : Table) : Option UInt8 :=
  match attributes.at? LinkKind.operState with
  | some (.value (.operState code)) => some code
  | _ => none

/-- The wide counters, or the narrow ones where there are no wide ones. -/
def counters? (attributes : Table) : Option (Counters UInt64) :=
  match attributes.at? LinkKind.counters64 with
  | some (.value (.counters64 counters)) => some counters
  | _ =>
    match attributes.at? LinkKind.counters32 with
    | some (.value (.counters32 counters)) => some counters.widen
    | _ => none

def deviceKind? (attributes : Table) : Option String := do
  let (_, info) ← attributes.at? LinkKind.info >>= Attribute.asTable?
  info.at? LinkInfoKind.kind >>= Attribute.asText?

end LinkEntity

namespace AddressEntity

/-- The far end of a point-to-point link, else the own address. -/
def address? (attributes : Table) : Option Ip :=
  attributes.at? AddressKind.address >>= Attribute.asIp?

def local? (attributes : Table) : Option Ip :=
  attributes.at? AddressKind.localAddress >>= Attribute.asIp?

def label? (attributes : Table) : Option String :=
  attributes.at? AddressKind.label >>= Attribute.asText?

def cacheInfo? (attributes : Table) : Option AddressCacheInfo :=
  match attributes.at? AddressKind.cacheInfo with
  | some (.value (.addressCacheInfo info)) => some info
  | _ => none

/-- The flags of the attribute stand for those of the body. -/
def allFlags (address : AddressEntity) (attributes : Table) : UInt32 :=
  match attributes.at? AddressKind.flags with
  | some (.value (.addressFlags bits)) => bits
  | _ => address.flags

end AddressEntity

namespace RouteEntity

def destination? (attributes : Table) : Option Ip :=
  attributes.at? RouteKind.destination >>= Attribute.asIp?

def gateway? (attributes : Table) : Option Ip :=
  attributes.at? RouteKind.gateway >>= Attribute.asIp?

def preferredSource? (attributes : Table) : Option Ip :=
  attributes.at? RouteKind.preferredSource >>= Attribute.asIp?

/-- The index of the device that packets leave by. -/
def outgoing? (attributes : Table) : Option UInt32 :=
  attributes.at? RouteKind.outgoing >>= Attribute.asU32?

def priority? (attributes : Table) : Option UInt32 :=
  attributes.at? RouteKind.priority >>= Attribute.asU32?

/-- The table of the attribute, else the one of the body. -/
def tableId (route : RouteEntity) (attributes : Table) : UInt32 :=
  (attributes.at? RouteKind.table >>= Attribute.asU32?).getD route.table.toUInt32

def isDefault (route : RouteEntity) : Bool := route.destinationLength = 0

def cacheInfo? (attributes : Table) : Option RouteCacheInfo :=
  match attributes.at? RouteKind.cacheInfo with
  | some (.value (.routeCacheInfo info)) => some info
  | _ => none

end RouteEntity

namespace NeighborEntity

def destination? (attributes : Table) : Option Ip :=
  attributes.at? NeighborKind.destination >>= Attribute.asIp?

def linkAddress? (attributes : Table) : Option Ethernet :=
  attributes.at? NeighborKind.linkAddress >>= Attribute.asEthernet?

end NeighborEntity

namespace NamespaceAttributes

/-- Minus one says that no id is assigned. -/
def unassigned : Int32 := -1

def id? (attributes : Table) : Option Int32 :=
  (attributes.at? NamespaceKind.id >>= Attribute.asI32?).filter (· ≠ unassigned)

def process? (attributes : Table) : Option UInt32 :=
  attributes.at? NamespaceKind.process >>= Attribute.asU32?

end NamespaceAttributes
end RouteNetlink
