import RouteNetlink.Vocabulary.Basic

/-! Words for links: hardware types, operational states, counters, device settings. -/
namespace RouteNetlink
namespace Vocabulary

def hardware : Vocabulary where
  entries :=
    [(0, "NETROM"), (1, "ETHER"), (2, "EETHER"), (3, "AX25"), (4, "PRONET"), (5, "CHAOS"),
     (6, "IEEE802"), (7, "ARCNET"), (8, "APPLETLK"), (15, "DLCI"), (19, "ATM"), (23, "METRICOM"),
     (24, "IEEE1394"), (27, "EUI64"), (32, "INFINIBAND"), (256, "SLIP"), (257, "CSLIP"),
     (258, "SLIP6"), (259, "CSLIP6"), (260, "RSRVD"), (264, "ADAPT"), (270, "ROSE"),
     (271, "X25"), (272, "HWX25"), (280, "CAN"), (512, "PPP"), (513, "HDLC"), (516, "LAPB"),
     (517, "DDCMP"), (518, "RAWHDLC"), (519, "RAWIP"), (768, "TUNNEL"), (769, "TUNNEL6"),
     (770, "FRAD"), (771, "SKIP"), (772, "LOOPBACK"), (773, "LOCALTLK"), (774, "FDDI"),
     (775, "BIF"), (776, "SIT"), (777, "IPDDP"), (778, "IPGRE"), (779, "PIMREG"), (780, "HIPPI"),
     (781, "ASH"), (782, "ECONET"), (783, "IRDA"), (784, "FCPP"), (785, "FCAL"), (786, "FCPL"),
     (787, "FCFABRIC"), (800, "IEEE802_TR"), (801, "IEEE80211"), (802, "IEEE80211_PRISM"),
     (803, "IEEE80211_RADIOTAP"), (804, "IEEE802154"), (805, "IEEE802154_MONITOR"),
     (823, "IP6GRE"), (824, "NETLINK"), (825, "6LOWPAN"), (826, "VSOCKMON"), (65535, "VOID"),
     (65534, "NONE")]

def operState : Vocabulary where
  entries :=
    [(0, "unknown"), (1, "not present"), (2, "down"), (3, "lower layer down"), (4, "testing"),
     (5, "dormant"), (6, "up")]

/-- Counters of a link in wire order. -/
def linkStatistic : Vocabulary where
  entries :=
    [(0, "Rx Packets"), (1, "Tx Packets"), (2, "Rx Bytes"), (3, "Tx Bytes"), (4, "Rx Errors"),
     (5, "Tx Errors"), (6, "Rx Drops"), (7, "Tx Drops"), (8, "Rx Multicast Packets"),
     (9, "Collisions"), (10, "Rx Length Errors"), (11, "Rx Overrun Errors"),
     (12, "Rx CRC Errors"), (13, "Rx Frame Errors"), (14, "Rx Fifo Errors"),
     (15, "Rx Missed Errors"), (16, "Tx Aborts"), (17, "Tx Carrier Errors"),
     (18, "Tx Fifo Errors"), (19, "Tx Heartbeat Errors"), (20, "Tx Window Errors"),
     (21, "Rx Compressed Packets"), (22, "Tx Compressed Packets")]

/-- Settings of a device for IPv4, by position. -/
def inetSetting : Vocabulary where
  entries :=
    [(0, "Forwarding"), (1, "Multicast Forwarding"), (2, "Proxy ARP"), (3, "Accept Redirects"),
     (4, "Secure Redirects"), (5, "Send Redirects"), (6, "Shared Media"), (7, "Rp Filter"),
     (8, "Accept Source Route"), (9, "BOOTP Relay"), (10, "Log Martians"), (11, "Tag"),
     (12, "ARP Filter"), (13, "Medium ID"), (14, "No Xfrm"), (15, "No Policy"),
     (16, "Force IGMP Version"), (17, "ARP Announce"), (18, "ARP Ignore"),
     (19, "Promote Secondaries"), (20, "ARP Accept"), (21, "ARP Notify"), (22, "Accept Local"),
     (23, "Src Vmark"), (24, "Proxy ARP Pvlan"), (25, "Route Localnet"),
     (26, "IGMPV2 Unsolicited Report Interval"), (27, "IGMPV3 Unsolicited Report Interval"),
     (28, "Ignore Routes With Linkdown")]

/-- Settings of a device for IPv6, by position. -/
def inet6Setting : Vocabulary where
  entries :=
    [(0, "Forwarding"), (1, "Hop Limit"), (2, "MTU"), (3, "Accept RA"), (4, "Accept Redirects"),
     (5, "Autoconf"), (6, "DAD Transmits"), (7, "Router Solicits"),
     (8, "Router Solicit Interval"), (9, "Router Solicit Delay"), (10, "Use Temp Address"),
     (11, "Temp Valid Left"), (12, "Temp Preferred Left"), (13, "Regen Max Retry"),
     (14, "Max Desync Factor"), (15, "Max Addresses"), (16, "Force MLD Version"),
     (17, "Accept RA Default Router"), (18, "Accept RA Pinfo"), (19, "Accept RA Router Pref"),
     (20, "Router Probe Interval"), (21, "Accept Ra Rt Info Max Plen"), (22, "Proxy Ndp"),
     (23, "Optimistic DAD"), (24, "Accept Source Route"), (25, "Multicast Forwarding"),
     (26, "Disable IPV6"), (27, "Accept Dad"), (28, "Force Tllao"), (29, "Ndisc Notify"),
     (30, "Mldv1 Unsolicited Report Interval"), (31, "Mldv2 Unsolicited Report Interval"),
     (32, "Suppress Frag Ndisc"), (33, "Accept Ra From Local"), (34, "Use Optimistic"),
     (35, "Accept Ra MTU"), (36, "Stable Secret"), (37, "Use OIF Addrs Only"),
     (38, "Accept RA Min Hop Limit"), (39, "Ignore Routes With Linkdown")]

end Vocabulary
end RouteNetlink
