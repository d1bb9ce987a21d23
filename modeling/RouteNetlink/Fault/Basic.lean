import RouteNetlink.Fault.OsError

/-! What can go wrong with a record, an attribute, a request or a socket, with the one
place where each cause gets its wording. -/
namespace RouteNetlink

/-- Why the socket failed: the system said so, or the session noticed. -/
inductive SocketFlaw where
  | os (code : Int32)
  | acceptedNothing
  | endOfStream
  | stated (text : String)
  deriving DecidableEq

namespace SocketFlaw

def message : SocketFlaw → String
  | os code => OsError.describe code
  | acceptedNothing => "netlink socket accepted no bytes"
  | endOfStream => "netlink transport closed"
  | stated text => text

end SocketFlaw

/-- Why a whole record or request is refused. -/
inductive RecordFlaw where
  | tooLong (length : Nat)
  | lengthBelowHeader (length dropped : Nat)
  | sequenceTaken (sequence : UInt32)
  | namespaceUnopened (path : String) (code : Int32)
  | namespaceUnnamed (path : String)
  | stated (text : String)
  deriving DecidableEq

namespace RecordFlaw

def message : RecordFlaw → String
  | tooLong length => s!"record of {length} bytes is too long"
  | lengthBelowHeader length dropped =>
      s!"record length {length} below header size, dropped {dropped} buffered bytes"
  | sequenceTaken sequence => s!"sequence {sequence} already awaits a reply"
  | namespaceUnopened path code =>
      "cannot open namespace '" ++ path ++ "': " ++ OsError.describe code
  | namespaceUnnamed path =>
      "cannot open namespace '" ++ path ++ "': file name contained an unexpected NUL byte"
  | stated text => text

end RecordFlaw

inductive AttributeFlaw where
  | tooLong (kind size : Nat)
  | deviceConfigSize (size : Nat)
  | stated (text : String)
  deriving DecidableEq

namespace AttributeFlaw

def message : AttributeFlaw → String
  | tooLong kind size => s!"attribute {kind} too long: {size} bytes"
  | deviceConfigSize size =>
      s!"device config of {size} bytes is not a non-empty multiple of 4"
  | stated text => text

end AttributeFlaw

inductive Fault where
  | io (flaw : SocketFlaw)
  | kernel (code : Int32) (text : String)
  /-- A fixed layout met fewer, or more, bytes than it has. -/
  | truncated (expected actual : Nat)
  | unknownAttribute (family : String) (kind max : Nat)
  | unknownMessageType (kind : UInt16)
  | invalidMessage (flaw : RecordFlaw)
  | invalidAttribute (flaw : AttributeFlaw)
  | bufferClamped (option control : String) (requested actual : Nat)
  | timeout
  | cancelled
  | closed
  | alreadyListening
  deriving DecidableEq

namespace Fault

def message : Fault → String
  | io flaw => s!"I/O error: {flaw.message}"
  | kernel code text => s!"kernel error: {text} (errno {code})"
  | truncated expected actual =>
      s!"buffer size mismatch: expected {expected} bytes, got {actual}"
  | unknownAttribute family kind max => s!"unknown {family} attribute kind {kind} (max {max})"
  | unknownMessageType kind => s!"unknown message type {kind}"
  | invalidMessage flaw => s!"invalid message: {flaw.message}"
  | invalidAttribute flaw => s!"invalid attribute: {flaw.message}"
  | bufferClamped option control requested actual =>
      s!"{option} truncated to {actual} bytes; run: sysctl -w {control}={requested}"
  | timeout => "timed out waiting for reply"
  | cancelled => "request cancelled: connection closed"
  | closed => "connection closed"
  | alreadyListening => "connection is already listening"

/-- The absolute value, except that the least number is mapped to the greatest. -/
def magnitude (code : Int32) : Int32 :=
  if code = Int32.minValue then Int32.maxValue else if code < 0 then -code else code

/-- Replies carry negated error numbers; the fault carries the positive one. -/
def ofCode (code : Int32) : Fault := kernel (magnitude code) (OsError.describe (magnitude code))

def code? : Fault → Option Int32
  | kernel code _ => some code
  | io (.os code) => some code
  | _ => none

def isCancelled : Fault → Bool
  | cancelled | closed => true
  | _ => false

def isTimeout : Fault → Bool
  | timeout => true
  | _ => false

def isNotFound (fault : Fault) : Bool :=
  fault.code? = some OsError.noEntry || fault.code? = some OsError.noDevice

def isPermissionDenied (fault : Fault) : Bool :=
  fault.code? = some OsError.notPermitted || fault.code? = some OsError.accessDenied

/-- Whether only one received record is affected. -/
def isDecode : Fault → Bool
  | truncated .. | unknownAttribute .. | unknownMessageType _ | invalidMessage _
  | invalidAttribute _ => true
  | _ => false

end Fault
end RouteNetlink
