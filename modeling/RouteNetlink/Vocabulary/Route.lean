import RouteNetlink.Vocabulary.Basic

/-! Words for routes: scopes, types, origins, tables. -/
namespace RouteNetlink
namespace Vocabulary

def scope : Vocabulary where
  entries :=
    [(0, "Universe"), (200, "Site"), (253, "Link"), (254, "Host"), (255, "Nowhere")]

def routeType : Vocabulary where
  entries :=
    [(0, "UNSPEC"), (1, "UNICAST"), (2, "LOCAL"), (3, "BROADCAST"), (4, "ANYCAST"),
     (5, "MULTICAST"), (6, "DROP"), (7, "UNREACHABLE"), (8, "PROHIBIT"), (9, "THROW"),
     (10, "NAT"), (11, "XRESOLVE")]

def routeOrigin : Vocabulary where
  entries :=
    [(0, "UNSPEC"), (1, "REDIRECT"), (2, "KERNEL"), (3, "BOOT"), (4, "STATIC"), (8, "GATED"),
     (9, "RA"), (10, "MRT"), (11, "ZEBRA"), (12, "BIRD"), (13, "DNROUTED"), (14, "XORP"),
     (15, "NTK"), (16, "DHCP"), (17, "MROUTED"), (18, "KEEPALIVED"), (42, "BABEL"),
     (99, "OPENR"), (186, "BGP"), (187, "ISIS"), (188, "OSPF"), (189, "RIP"), (192, "EIGRP")]

def routeTable : Vocabulary where
  entries :=
    [(0, "unspec"), (252, "compat"), (253, "default"), (254, "main"), (255, "local")]

end Vocabulary
end RouteNetlink
