import RouteNetlink.Text.FlagNames

/-! Names of the flag words in headers, bodies and attributes. -/
namespace RouteNetlink
namespace FlagNames

def header : FlagNames where
  empty := "0"
  entries :=
    [(0x1, "Request"), (0x2, "Multipart"), (0x4, "ACK"), (0x8, "Echo"), (0x10, "Interrupt"),
     (0x20, "Filtered"), (0x100, "Root"), (0x200, "Match"), (0x400, "Atomic"), (0x800, "Append")]

def link : FlagNames where
  empty := "0"
  entries :=
    [(0x1, "Admin Up"), (0x2, "Broadcast"), (0x4, "Debug"), (0x8, "Loopback"),
     (0x10, "Point To Point"), (0x20, "No Trailers"), (0x40, "Running"), (0x80, "No ARP"),
     (0x100, "Promiscuous"), (0x200, "All Multicast"), (0x400, "Master"), (0x800, "Slave"),
     (0x1000, "Multicast"), (0x2000, "Portsel"), (0x4000, "Automedia"), (0x8000, "Dynamic"),
     (0x10000, "Link Up"), (0x20000, "Dormant"), (0x40000, "Echo")]

def address : FlagNames where
  empty := "0"
  entries :=
    [(0x1, "SECONDARY"), (0x2, "NO_DAD"), (0x4, "OPTIMISTIC"), (0x8, "DAD_FAILED"),
     (0x10, "HOME_ADDRESS"), (0x20, "DEPRECATED"), (0x40, "TENTATIVE"), (0x80, "PERMANENT"),
     (0x100, "MANAGETEMPADDR"), (0x200, "NO_PREFIX_ROUTE"), (0x400, "MC_AUTO_JOIN"),
     (0x800, "STABLE_PRIVACY")]

def route : FlagNames where
  empty := "0"
  entries :=
    [(0x100, "Notify"), (0x200, "Cloned"), (0x400, "Multipath equalize"), (0x800, "Prefix"),
     (0x1000, "Lookup table"), (0x2000, "FIB match"), (0x4000, "Offload"), (0x8000, "Trap")]

def neighborState : FlagNames where
  empty := "NONE"
  entries :=
    [(0x1, "INCOMPLETE"), (0x2, "REACHABLE"), (0x4, "STALE"), (0x8, "DELAY"), (0x10, "PROBE"),
     (0x20, "FAILED"), (0x40, "NOARP"), (0x80, "PERMANENT")]

def neighbor : FlagNames where
  empty := "0"
  entries :=
    [(0x1, "USE"), (0x2, "SELF"), (0x4, "MASTER"), (0x8, "PROXY"), (0x10, "LEARNED"),
     (0x20, "OFFLOADED"), (0x40, "STICKY"), (0x80, "ROUTER")]

def inet6Link : FlagNames where
  empty := "0"
  entries :=
    [(0x1, "Prefix On Link"), (0x2, "Prefix Autoconf"), (0x10, "RS Sent"), (0x20, "RA Received"),
     (0x40, "RA Managed"), (0x80, "RA Other Conf"), (0x80000000, "Ready")]

end FlagNames
end RouteNetlink
