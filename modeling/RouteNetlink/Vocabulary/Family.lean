import RouteNetlink.Vocabulary.Basic

/-! Address families. -/
namespace RouteNetlink

structure Family where
  code : UInt8
  deriving DecidableEq, Inhabited

namespace Family

def vocabulary : Vocabulary where
  entries :=
    [(0, "UNSPEC"), (1, "UNIX"), (2, "INET"), (3, "AX25"), (4, "IPX"), (5, "APPLETALK"),
     (6, "NETROM"), (7, "BRIDGE"), (8, "ATMPVC"), (9, "X25"), (10, "INET6"), (11, "ROSE"),
     (12, "DECNET"), (13, "NETBEUI"), (14, "SECURITY"), (15, "KEY"), (16, "NETLINK"),
     (17, "PACKET"), (18, "ASH"), (19, "ECONET"), (20, "ATMSVC"), (21, "RDS"), (22, "SNA"),
     (23, "IRDA"), (24, "PPPOX"), (25, "WANPIPE"), (26, "LLC"), (27, "IB"), (28, "MPLS"),
     (29, "CAN"), (30, "TIPC"), (31, "BLUETOOTH"), (32, "IUCV"), (33, "RXRPC"), (34, "ISDN"),
     (35, "PHONET"), (36, "IEEE802154"), (37, "CAIF"), (38, "ALG"), (39, "NFC"), (40, "VSOCK")]

def name? (family : Family) : Option String := vocabulary.name? family.code.toNat

def label (family : Family) : String := vocabulary.label family.code.toNat

def unspecified : Family := ⟨0⟩
def inet : Family := ⟨2⟩
def bridge : Family := ⟨7⟩
def inet6 : Family := ⟨10⟩
def packet : Family := ⟨17⟩

end Family
end RouteNetlink
