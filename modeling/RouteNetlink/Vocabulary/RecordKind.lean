import RouteNetlink.Vocabulary.Basic

/-! Kinds of records. -/
namespace RouteNetlink

structure RecordKind where
  code : UInt16
  deriving DecidableEq, Inhabited

namespace RecordKind

def vocabulary : Vocabulary where
  entries :=
    [(1, "NLMSG_NOOP"), (2, "NLMSG_ERROR"), (3, "NLMSG_DONE"), (4, "NLMSG_OVERRUN"),
     (16, "RTM_NEWLINK"), (17, "RTM_DELLINK"), (18, "RTM_GETLINK"), (19, "RTM_SETLINK"),
     (20, "RTM_NEWADDR"), (21, "RTM_DELADDR"), (22, "RTM_GETADDR"), (24, "RTM_NEWROUTE"),
     (25, "RTM_DELROUTE"), (26, "RTM_GETROUTE"), (28, "RTM_NEWNEIGH"), (29, "RTM_DELNEIGH"),
     (30, "RTM_GETNEIGH"), (32, "RTM_NEWRULE"), (33, "RTM_DELRULE"), (34, "RTM_GETRULE"),
     (36, "RTM_NEWQDISC"), (37, "RTM_DELQDISC"), (38, "RTM_GETQDISC"), (40, "RTM_NEWTCLASS"),
     (41, "RTM_DELTCLASS"), (42, "RTM_GETTCLASS"), (44, "RTM_NEWTFILTER"),
     (45, "RTM_DELTFILTER"), (46, "RTM_GETTFILTER"), (48, "RTM_NEWACTION"),
     (49, "RTM_DELACTION"), (50, "RTM_GETACTION"), (52, "RTM_NEWPREFIX"),
     (58, "RTM_GETMULTICAST"), (62, "RTM_GETANYCAST"), (64, "RTM_NEWNEIGHTBL"),
     (66, "RTM_GETNEIGHTBL"), (67, "RTM_SETNEIGHTBL"), (68, "RTM_NEWNDUSEROPT"),
     (72, "RTM_NEWADDRLABEL"), (73, "RTM_DELADDRLABEL"), (74, "RTM_GETADDRLABEL"),
     (78, "RTM_GETDCB"), (79, "RTM_SETDCB"), (80, "RTM_NEWNETCONF"), (82, "RTM_GETNETCONF"),
     (84, "RTM_NEWMDB"), (85, "RTM_DELMDB"), (86, "RTM_GETMDB"), (88, "RTM_NEWNSID"),
     (89, "RTM_DELNSID"), (90, "RTM_GETNSID")]

def name? (kind : RecordKind) : Option String := vocabulary.name? kind.code.toNat

def label (kind : RecordKind) : String := vocabulary.label kind.code.toNat

/-- The kinds that carry no network state. -/
def isControl (kind : RecordKind) : Bool := 1 ≤ kind.code && kind.code ≤ 4

def noop : RecordKind := ⟨1⟩
def error : RecordKind := ⟨2⟩
def done : RecordKind := ⟨3⟩
def newLink : RecordKind := ⟨16⟩
def deleteLink : RecordKind := ⟨17⟩
def getLink : RecordKind := ⟨18⟩
def setLink : RecordKind := ⟨19⟩
def newAddress : RecordKind := ⟨20⟩
def deleteAddress : RecordKind := ⟨21⟩
def getAddress : RecordKind := ⟨22⟩
def newRoute : RecordKind := ⟨24⟩
def deleteRoute : RecordKind := ⟨25⟩
def getRoute : RecordKind := ⟨26⟩
def newNeighbor : RecordKind := ⟨28⟩
def deleteNeighbor : RecordKind := ⟨29⟩
def getNeighbor : RecordKind := ⟨30⟩
def newNamespace : RecordKind := ⟨88⟩
def deleteNamespace : RecordKind := ⟨89⟩
def getNamespace : RecordKind := ⟨90⟩

end RecordKind
end RouteNetlink
