import RouteNetlink.Attribute.Decode
import RouteNetlink.Message.Basic

/-! Decoding one record. Bytes past the declared length do not belong to it. -/
namespace RouteNetlink

/-- A record whose attribute run is still undecoded. -/
inductive Opened where
  | complete (message : Message)
  | attributed (header : Header) (entity : Entity) (run : List UInt8)

namespace Opened

/-- The answer's own body is 20 bytes; the echo of the request behind it is not kept. -/
def replyWidth : Nat := Layout.i32.width + Header.size

def reply (header : Header) (body : List UInt8) : Except Fault Message := do
  let cursor : Cursor := ⟨body⟩
  cursor.require replyWidth
  let (code, cursor) ← cursor.read Layout.i32
  let (request, _) ← cursor.read Header.wire
  return ⟨header, .reply code (Header.ofWire request)⟩

def query (header : Header) (body : List UInt8) : Except Fault Message := do
  let (family, _) ← (Cursor.mk body).read Layout.u8
  return ⟨header, .query ⟨family⟩⟩

/-- A query with less than the fixed part of its subject carries an address family alone. -/
def ofBody (header : Header) (body : List UInt8) : Except Fault Opened :=
  match header.kind.subject? with
  | some subject =>
    if header.kind.isQuery ∧ body.length < subject.fixedSize then
      (query header body).map complete
    else (subject.split body).map fun (entity, run) => attributed header entity run
  | none =>
    if header.kind = .noop then .ok (complete ⟨header, .noop⟩)
    else if header.kind = .done then .ok (complete ⟨header, .done⟩)
    else if header.kind = .error then (reply header body).map complete
    else .error (.unknownMessageType header.kind.code)

def ofRecord (record : List UInt8) : Except Fault Opened := do
  let header ← Header.decode record
  let length := header.length.toNat
  if length < Header.size ∨ record.length < length then
    .error (.truncated (max length Header.size) record.length)
  else ofBody header ((record.take length).drop Header.size)

end Opened

namespace Message

def decode (record : List UInt8) : Except Fault Message := do
  match ← Opened.ofRecord record with
  | .complete message => return message
  | .attributed header entity run =>
    let attributes ← entity.schema.decode run
    return ⟨header, .entity entity attributes⟩

end Message
end RouteNetlink
