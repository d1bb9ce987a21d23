import RouteNetlink.Attribute.Schema
import RouteNetlink.Vocabulary.Family

/-! The attributes that each kind of network state is described by. -/
namespace RouteNetlink
namespace Schema

/-- Bridge ports put settings of their own where other links have one table for each
family. -/
def familySettings (family : Family) : Format :=
  if family = Family.bridge then .plain .raw else Nest.families.format

def link (family : Family) : Schema where
  label := "IFLA"
  rows :=
    [("UNSPEC", .plain .raw), ("ADDRESS", .plain (.address .unspecified)),
     ("BROADCAST", .plain (.address .unspecified)), ("IFNAME", .plain .text),
     ("MTU", .plain .u32), ("LINK", .plain .u32), ("QDISC", .plain .text),
     ("STATS", .plain .counters32), ("COST", .plain .raw), ("PRIORITY", .plain .raw),
     ("MASTER", .plain .u32), ("WIRELESS", .plain .raw), ("PROTINFO", .plain .raw),
     ("TXQLEN", .plain .u32), ("MAP", .plain .raw), ("WEIGHT", .plain .u32),
     ("OPERSTATE", .plain .operState), ("LINKMODE", .plain .u8),
     ("LINKINFO", Nest.linkInfo.format), ("NET_NS_PID", .plain .u32), ("IFALIAS", .plain .text),
     ("NUM_VF", .plain .u32), ("VFINFO_LIST", .plain .raw), ("STATS64", .plain .counters64),
     ("VF_PORTS", .plain .raw), ("PORT_SELF", .plain .raw), ("AF_SPEC", familySettings family),
     ("GROUP", .plain .u32), ("NET_NS_FD", .plain .u32), ("EXT_MASK", .plain .u32),
     ("PROMISCUITY", .plain .u32), ("NUM_TX_QUEUES", .plain .u32),
     ("NUM_RX_QUEUES", .plain .u32), ("CARRIER", .plain .u8), ("PHYS_PORT_ID", .plain .raw),
     ("CARRIER_CHANGES", .plain .u32), ("PHYS_SWITCH_ID", .plain .raw),
     ("LINK_NETNSID", .plain .i32), ("PHYS_PORT_NAME", .plain .text), ("PROTO_DOWN", .plain .u8),
     ("GSO_MAX_SEGS", .plain .u32), ("GSO_MAX_SIZE", .plain .u32), ("PAD", .plain .raw),
     ("XDP", .plain .raw), ("EVENT", .plain .raw), ("NEW_NETNSID", .plain .i32),
     ("TARGET_NETNSID", .plain .i32), ("CARRIER_UP_COUNT", .plain .u32),
     ("CARRIER_DOWN_COUNT", .plain .u32), ("NEW_IFINDEX", .plain .u32), ("MIN_MTU", .plain .u32),
     ("MAX_MTU", .plain .u32), ("PROP_LIST", .plain .raw), ("ALT_IFNAME", .plain .text),
     ("PERM_ADDRESS", .plain (.address .unspecified)), ("PROTO_DOWN_REASON", .plain .raw),
     ("PARENT_DEV_NAME", .plain .text), ("PARENT_DEV_BUS_NAME", .plain .text),
     ("GRO_MAX_SIZE", .plain .u32), ("TSO_MAX_SIZE", .plain .u32), ("TSO_MAX_SEGS", .plain .u32),
     ("ALLMULTI", .plain .u32), ("DEVLINK_PORT", .plain .raw),
     ("GSO_IPV4_MAX_SIZE", .plain .u32), ("GRO_IPV4_MAX_SIZE", .plain .u32),
     ("DPLL_PIN", .plain .raw), ("MAX_PACING_OFFLOAD_HORIZON", .plain .raw),
     ("NETNS_IMMUTABLE", .plain .raw), ("HEADROOM", .plain .raw), ("TAILROOM", .plain .raw)]

def address (family : Family) : Schema where
  label := "IFA"
  rows :=
    [("UNSPEC", .plain .raw), ("ADDRESS", .plain (.address family)),
     ("LOCAL", .plain (.address family)), ("LABEL", .plain .text),
     ("BROADCAST", .plain (.address family)), ("ANYCAST", .plain (.address family)),
     ("CACHEINFO", .plain .addressCacheInfo), ("MULTICAST", .plain (.address family)),
     ("FLAGS", .plain .addressFlags), ("RT_PRIORITY", .plain .u32),
     ("TARGET_NETNSID", .plain .i32), ("PROTO", .plain .u8)]

def route (family : Family) : Schema where
  label := "RTA"
  rows :=
    [("UNSPEC", .plain .raw), ("DST", .plain (.address family)),
     ("SRC", .plain (.address family)), ("IIF", .plain .u32), ("OIF", .plain .u32),
     ("GATEWAY", .plain (.address family)), ("PRIORITY", .plain .u32),
     ("PREFSRC", .plain (.address family)), ("METRICS", .plain .raw), ("MULTIPATH", .plain .raw),
     ("PROTOINFO", .plain .raw), ("FLOW", .plain .u32), ("CACHEINFO", .plain .routeCacheInfo),
     ("SESSION", .plain .raw), ("MP_ALGO", .plain .raw), ("TABLE", .plain .u32),
     ("MARK", .plain .u32), ("MFC_STATS", .plain .raw), ("VIA", .plain .raw),
     ("NEWDST", .plain .raw), ("PREF", .plain .u8), ("ENCAP_TYPE", .plain .u16),
     ("ENCAP", .plain .raw), ("EXPIRES", .plain .u64), ("PAD", .plain .raw),
     ("UID", .plain .u32), ("TTL_PROPAGATE", .plain .u8), ("IP_PROTO", .plain .u8),
     ("SPORT", .plain .u16), ("DPORT", .plain .u16), ("NH_ID", .plain .u32)]

def neighbor (family : Family) : Schema where
  label := "NDA"
  rows :=
    [("UNSPEC", .plain .raw), ("DST", .plain (.address family)),
     ("LLADDR", .plain (.address .unspecified)), ("CACHEINFO", .plain .neighborCacheInfo),
     ("PROBES", .plain .u32), ("VLAN", .plain .u16), ("PORT", .plain .u16), ("VNI", .plain .u32),
     ("IFINDEX", .plain .u32), ("MASTER", .plain .u32), ("LINK_NETNSID", .plain .i32),
     ("SRC_VNI", .plain .u32), ("PROTOCOL", .plain .u8), ("NH_ID", .plain .u32),
     ("FDB_EXT_ATTRS", .plain .raw), ("FLAGS_EXT", .plain .u32), ("NDM_STATE_MASK", .plain .raw),
     ("NDM_FLAGS_MASK", .plain .raw)]

def networkNamespace : Schema where
  label := "NETNSA"
  rows :=
    [("NONE", .plain .raw), ("NSID", .plain .i32), ("PID", .plain .u32), ("FD", .plain .u32),
     ("TARGET_NSID", .plain .i32), ("CURRENT_NSID", .plain .i32)]

end Schema

namespace LinkKind

def address : Nat := 1
def name : Nat := 3
def mtu : Nat := 4
def counters32 : Nat := 7
def master : Nat := 10
def operState : Nat := 16
def info : Nat := 18
def counters64 : Nat := 23

end LinkKind

namespace LinkInfoKind

def kind : Nat := 1

end LinkInfoKind

namespace AddressKind

def address : Nat := 1
def localAddress : Nat := 2
def label : Nat := 3
def cacheInfo : Nat := 6
def flags : Nat := 8

end AddressKind

namespace RouteKind

def destination : Nat := 1
def outgoing : Nat := 4
def gateway : Nat := 5
def priority : Nat := 6
def preferredSource : Nat := 7
def cacheInfo : Nat := 12
def table : Nat := 15

end RouteKind

namespace NeighborKind

def destination : Nat := 1
def linkAddress : Nat := 2

end NeighborKind

namespace NamespaceKind

def id : Nat := 1
def process : Nat := 2

end NamespaceKind
end RouteNetlink
