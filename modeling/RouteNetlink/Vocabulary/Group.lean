import RouteNetlink.Vocabulary.Basic

/-! Multicast groups, and the bit masks that join them. -/
namespace RouteNetlink

/-- A group by its bit index. -/
structure Group where
  index : UInt32
  deriving DecidableEq, Inhabited

namespace Group

def vocabulary : Vocabulary where
  entries :=
    [(0, "LINK"), (1, "NOTIFY"), (2, "NEIGH"), (3, "TC"), (4, "IPV4_IFADDR"), (5, "IPV4_MROUTE"),
     (6, "IPV4_ROUTE"), (7, "IPV4_RULE"), (8, "IPV6_IFADDR"), (9, "IPV6_MROUTE"),
     (10, "IPV6_ROUTE"), (11, "IPV6_IFINFO"), (12, "DECNET_IFADDR"), (13, "NOP2"),
     (14, "DECNET_ROUTE"), (15, "DECNET_RULE"), (16, "NOP4"), (17, "IPV6_PREFIX"),
     (18, "IPV6_RULE"), (19, "ND_USEROPT"), (20, "PHONET_IFADDR"), (21, "PHONET_ROUTE"),
     (22, "DCB"), (23, "IPV4_NETCONF"), (24, "IPV6_NETCONF"), (25, "MDB"), (26, "MPLS_ROUTE"),
     (27, "NSID"), (4294967295, "NOOP")]

/-- A placeholder that joins nothing. -/
def noop : Group := ⟨4294967295⟩

/-- The groups joined where none are chosen: links, neighbors, and the addresses and
routes of both internet families. -/
def standard : List Group := [⟨0⟩, ⟨2⟩, ⟨4⟩, ⟨6⟩, ⟨5⟩, ⟨8⟩, ⟨10⟩, ⟨9⟩]

/-- The bit of one group; an index past the word has none. -/
def bit (group : Group) : UInt32 :=
  if group.index < 32 then 1 <<< group.index else 0

def mask (groups : List Group) : UInt32 := groups.foldl (fun all g => all ||| g.bit) 0

end Group
end RouteNetlink
