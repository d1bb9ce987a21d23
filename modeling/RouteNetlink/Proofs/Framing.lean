import RouteNetlink.Proofs.Reassembly
import RouteNetlink.Proofs.RoundTrip

/-! Both ends agree on where records start. What was framed on one side, refused messages in
between, is taken as the same messages on the other, however it is cut on the way. -/
namespace RouteNetlink

open ReceiveBuffer (Piece joined taking)

namespace Message

/-- Frames messages in turn, each behind what the earlier ones left. -/
def frameEach (buffer : TransmitBuffer) :
    (messages : List Message) → List Framing × TransmitBuffer
  | [] => ([], buffer)
  | message :: messages =>
    let first := message.frame buffer
    let later := frameEach first.buffer messages
    (first :: later.1, later.2)

/-- The messages that were not refused, as they were framed. -/
def sent (framings : List Framing) : List Message :=
  (framings.filter fun framing => framing.fault?.isNone).map Framing.message

def piece (message : Message) : Piece :=
  ⟨message.record, padding (Header.size + message.body.size)⟩

variable {message : Message} {messages : List Message} {buffer : TransmitBuffer}

/-- The record of a conforming message is as long as the header in it says. -/
theorem Conforms.exact_piece (h : message.Conforms) (buffer : TransmitBuffer) :
    (message.stamped buffer).piece.Exact := by
  have hl := h.length_stamped buffer
  have hd : Header.decode (message.stamped buffer).record =
      .ok (message.stamped buffer).header :=
    Header.decode_encode (h.stamped buffer).namespaceId _
  have hdeclared := Header.length_of_decode hd
  constructor
  · rw [piece, length_record]
    exact Nat.le_add_right _ _
  · rw [piece, length_record, ← hdeclared, hl]
  · rw [piece, length_record, length_padding]

/-- A conforming message is framed as one piece. -/
theorem Conforms.frame (h : message.Conforms) (buffer : TransmitBuffer) :
    (message.frame buffer).fault? = none ∧
      (message.frame buffer).message = message.stamped buffer ∧
      (message.frame buffer).buffer.bytes =
        buffer.bytes ++ (message.stamped buffer).piece.bytes := by
  have ha := h.appendTo buffer
  have hf : message.frame buffer = message.appendTo buffer := frame_of_ok (by rw [ha])
  rw [hf, ha]
  exact ⟨rfl, rfl, rfl⟩

/-- Whatever was refused on the way, framing adds one exact piece for each message sent. -/
theorem exists_pieces_of_frameEach (h : ∀ message ∈ messages,
      message.Conforms ∨ message.body.fits = false) (buffer : TransmitBuffer) :
    ∃ pieces : List Piece,
      (frameEach buffer messages).2.bytes = buffer.bytes ++ joined pieces ∧
      (∀ piece ∈ pieces, piece.Exact) ∧
      pieces.map (fun piece => decode piece.record) =
        (sent (frameEach buffer messages).1).map .ok := by
  induction messages generalizing buffer with
  | nil => exact ⟨[], (List.append_nil _).symm, by simp, rfl⟩
  | cons message messages ih =>
    obtain ⟨hm, hrest⟩ := List.forall_mem_cons.1 h
    obtain ⟨pieces, hbytes, hexact, hdecode⟩ := ih hrest (message.frame buffer).buffer
    rcases hm with hc | hover
    · obtain ⟨hfault, hmessage, hframed⟩ := hc.frame buffer
      refine ⟨(message.stamped buffer).piece :: pieces, ?_, ?_, ?_⟩
      · rw [frameEach, hbytes, hframed, List.append_assoc]
        rfl
      · exact List.forall_mem_cons.2 ⟨hc.exact_piece buffer, hexact⟩
      · have hrecord : decode (message.stamped buffer).piece.record =
            .ok (message.stamped buffer) := by
          have := decode_record (hc.stamped buffer) (hc.length_stamped buffer) []
          rwa [List.append_nil] at this
        rw [List.map_cons, hrecord, hdecode]
        simp [frameEach, sent, hfault, hmessage]
    · obtain ⟨hfault, hframed⟩ := frame_overlong hover buffer
      refine ⟨pieces, ?_, hexact, ?_⟩
      · rw [frameEach, hbytes, hframed]
      · rw [hdecode]
        simp [frameEach, sent, hfault]

/-- The messages that fit are sent, and the others are refused. -/
theorem isNone_fault?_frameEach (h : ∀ message ∈ messages,
      message.Conforms ∨ message.body.fits = false) (buffer : TransmitBuffer) :
    (frameEach buffer messages).1.map (fun framing => framing.fault?.isNone) =
      messages.map (fun message => message.body.fits) := by
  induction messages generalizing buffer with
  | nil => rfl
  | cons message messages ih =>
    obtain ⟨hm, hrest⟩ := List.forall_mem_cons.1 h
    have hlater := ih hrest (message.frame buffer).buffer
    rw [frameEach, List.map_cons, List.map_cons, hlater]
    rcases hm with hc | hover
    · rw [(hc.frame buffer).1, hc.body.fits]
      rfl
    · rw [(frame_overlong hover buffer).1, hover]

/-- The two ends agree on framing. However the bytes of an initially empty transmit buffer are
cut, an empty receive buffer takes one record for each message that was sent, which decodes
to that message as it was framed, and is empty again in the end. -/
theorem drainReads_frameEach (h : ∀ message ∈ messages,
      message.Conforms ∨ message.body.fits = false) (port next : UInt32) (id : Option Int32)
    (reads : List (List UInt8))
    (hr : reads.flatten = (frameEach ⟨[], port, next⟩ messages).2.bytes) :
    let framings := (frameEach ⟨[], port, next⟩ messages).1
    framings.map (fun framing => framing.fault?.isNone) =
        messages.map (fun message => message.body.fits) ∧
      ∃ records : List (List UInt8),
        ReceiveBuffer.drainReads ⟨[], id⟩ reads = (records.map .ok, ⟨[], id⟩) ∧
        records.map decode = (sent framings).map .ok := by
  intro framings
  obtain ⟨pieces, hbytes, hexact, hdecode⟩ :=
    exists_pieces_of_frameEach h ⟨[], port, next⟩
  have hjoined : reads.flatten = joined pieces := hr.trans hbytes
  have hframed : ReceiveBuffer.WellFramed reads.flatten :=
    hjoined ▸ ReceiveBuffer.wellFramed_joined hexact
  have hdrain : ReceiveBuffer.drainReads ⟨[], id⟩ reads = taking pieces ⟨[], id⟩ := by
    rw [ReceiveBuffer.drainReads_eq_drain ⟨[], id⟩ reads rfl hframed, hjoined]
    exact ReceiveBuffer.drain_joined hexact id
  refine ⟨isNone_fault?_frameEach h _, pieces.map Piece.record, ?_, ?_⟩
  · rw [hdrain, taking, List.map_map]
    rfl
  · rw [List.map_map]
    exact hdecode

/-- A message with an attribute that no length field can describe. -/
def overlongNamespace : Message :=
  ⟨Header.new .newNamespace 0, .entity (.networkNamespace .unspecified)
    ((Table.empty Schema.networkNamespace.slots).put 0
      (.value (.raw (List.replicate (Attribute.maxSize + 1) 0))))⟩

/-- A request of 17 bytes, a message that is refused, and an answer. -/
def mixedMessages : List Message :=
  [dump .getLink .unspecified, overlongNamespace, (Reply.new 0 (.new .setLink 0)).toMessage]

theorem drainReads_frameEach_mixedMessages :
    let framed := frameEach ⟨[], 4242, 1⟩ mixedMessages
    framed.1.map (fun framing => framing.fault?.isNone) = [true, false, true] ∧
      ∃ records : List (List UInt8),
        ReceiveBuffer.drainReads ⟨[], none⟩
          [framed.2.bytes.take 18, [], framed.2.bytes.drop 18] = (records.map .ok, ⟨[], none⟩) ∧
        records.map decode = (sent framed.1).map .ok := by
  intro framed
  have hover : overlongNamespace.body.fits = false := by
    simp [overlongNamespace, Body.fits, Table.fits, Table.put, Table.empty, Attribute.slotsFit,
      Schema.slots, Schema.networkNamespace, Attribute.size, Value.size]
  have hmixed : ∀ message ∈ mixedMessages, message.Conforms ∨ message.body.fits = false := by
    simp only [mixedMessages, List.forall_mem_cons]
    exact ⟨.inl ⟨by decide, rfl, trivial⟩, .inr hover, .inl ⟨by decide, rfl, rfl⟩, by simp⟩
  have hcut (bs : List UInt8) : [bs.take 18, [], bs.drop 18].flatten = bs := by simp
  obtain ⟨hfits, hrecords⟩ := drainReads_frameEach hmixed 4242 1 none _ (hcut framed.2.bytes)
  have hall : mixedMessages.map (fun message => message.body.fits) = [true, false, true] := by
    simp only [mixedMessages, List.map_cons, hover]
    rfl
  exact ⟨hfits.trans hall, hrecords⟩

end Message
end RouteNetlink
