import RouteNetlink.Bytes.Layout
import RouteNetlink.Text.Outline

/-! Ages and lifetimes that the kernel keeps for addresses, neighbors, routes and IPv6
devices. -/
namespace RouteNetlink

structure AddressCacheInfo where
  preferred : UInt32
  valid : UInt32
  created : UInt32
  updated : UInt32
  deriving DecidableEq

structure NeighborCacheInfo where
  confirmed : UInt32
  used : UInt32
  updated : UInt32
  references : UInt32
  deriving DecidableEq

structure RouteCacheInfo where
  clientReferences : UInt32
  lastUse : UInt32
  expires : Int32
  error : UInt32
  used : UInt32
  id : UInt32
  stamp : UInt32
  stampAge : UInt32
  deriving DecidableEq

structure Inet6CacheInfo where
  maxReassembly : UInt32
  stamp : UInt32
  reachable : UInt32
  retransmit : UInt32
  deriving DecidableEq

namespace AddressCacheInfo

def layout : Layout AddressCacheInfo :=
  (Layout.u32.pair (Layout.u32.pair (Layout.u32.pair Layout.u32))).rename
    (fun (a, b, c, d) => ⟨a, b, c, d⟩) (fun i => (i.preferred, i.valid, i.created, i.updated))
    (fun _ => rfl) (fun _ => rfl)

def outline (info : AddressCacheInfo) : List Outline :=
  [.field "prefered" (toString info.preferred), .field "valid" (toString info.valid),
   .field "created" (toString info.created), .field "updated" (toString info.updated)]

end AddressCacheInfo

namespace NeighborCacheInfo

def layout : Layout NeighborCacheInfo :=
  (Layout.u32.pair (Layout.u32.pair (Layout.u32.pair Layout.u32))).rename
    (fun (a, b, c, d) => ⟨a, b, c, d⟩) (fun i => (i.confirmed, i.used, i.updated, i.references))
    (fun _ => rfl) (fun _ => rfl)

def outline (info : NeighborCacheInfo) : List Outline :=
  [.field "confirmed" (toString info.confirmed), .field "used" (toString info.used),
   .field "updated" (toString info.updated), .field "refcnt" (toString info.references)]

end NeighborCacheInfo

namespace RouteCacheInfo

def layout : Layout RouteCacheInfo :=
  (Layout.u32.pair (Layout.u32.pair (Layout.i32.pair (Layout.u32.pair
    (Layout.u32.pair (Layout.u32.pair (Layout.u32.pair Layout.u32))))))).rename
    (fun (a, b, c, d, e, f, g, h) => ⟨a, b, c, d, e, f, g, h⟩)
    (fun i => (i.clientReferences, i.lastUse, i.expires, i.error, i.used, i.id, i.stamp,
      i.stampAge))
    (fun _ => rfl) (fun _ => rfl)

/-- The last three fields are kept and not shown. -/
def outline (info : RouteCacheInfo) : List Outline :=
  [.field "clntref" (toString info.clientReferences), .field "lastuse" (toString info.lastUse),
   .field "expires" (toString info.expires), .field "error" (toString info.error),
   .field "used" (toString info.used)]

end RouteCacheInfo

namespace Inet6CacheInfo

def layout : Layout Inet6CacheInfo :=
  (Layout.u32.pair (Layout.u32.pair (Layout.u32.pair Layout.u32))).rename
    (fun (a, b, c, d) => ⟨a, b, c, d⟩)
    (fun i => (i.maxReassembly, i.stamp, i.reachable, i.retransmit))
    (fun _ => rfl) (fun _ => rfl)

def outline (info : Inet6CacheInfo) : List Outline :=
  [.field "max reasm len" (toString info.maxReassembly), .field "tstamp" (toString info.stamp),
   .field "reachable time" (toString info.reachable),
   .field "retrans time" (toString info.retransmit)]

end Inet6CacheInfo
end RouteNetlink
