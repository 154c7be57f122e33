import XrayProxy.Vless.LengthPacket
import XrayProxy.Vless.Addons
import Mathlib.Data.List.Forall2

/-!
# Packet streams

A VLESS UDP connection carries its datagrams as a stream of length-prefixed frames: the body
writer `EncodeBodyAddons` picks for UDP is `MultiLengthPacketWriter`, and the body reader
`DecodeBodyAddons` picks is `LengthPacketReader`. Here the writers run over a whole sequence of
writes onto a sink that keeps every byte in order, the reader is called again and again on the
resulting stream, and the two are shown to agree: one packet per frame, in order, an error once
the stream ends, and an error rather than a partial packet on every truncation of the stream.
-/

namespace XrayProxy.Vless.PacketStream

open XrayProxy.Buf XrayProxy.Vless.LengthPacket

set_option autoImplicit false

inductive RequestCommand
  | tcp
  | udp
  | mux
  deriving DecidableEq, Repr

/-- The writers `EncodeBodyAddons` returns: `NewMultiLengthPacketWriter`, `buf.NewWriter`, and
`proxy.NewVisionWriter` around the latter. -/
inductive BodyWriter
  | multiLengthPacket
  | plain
  | vision
  deriving DecidableEq, Repr

def encodeBodyAddons (command : RequestCommand) (requestAddons : Addons) : BodyWriter :=
  if command = .udp then .multiLengthPacket
  else if requestAddons.flow = xrv then .vision
  else .plain

inductive BodyReader
  | lengthPacket
  | plain
  deriving DecidableEq, Repr

def decodeBodyAddons (command : RequestCommand) : BodyReader :=
  if command = .udp then .lengthPacket else .plain

example (requestAddons : Addons) :
    encodeBodyAddons .udp requestAddons = .multiLengthPacket ∧
      decodeBodyAddons .udp = .lengthPacket :=
  ⟨if_pos rfl, if_pos rfl⟩

/-- Successive `ReadMultiBuffer` calls on one stream, `calls` of them at most: the packets
returned before the first error, and that error. -/
def readPackets (bufSize : BufSize) : Nat → List Byte → List MultiBuffer × Option PacketError
  | 0, _ => ([], none)
  | calls + 1, stream =>
    match LengthPacketReader.readMultiBuffer bufSize stream with
    | (.ok mb, rest) => Prod.map (mb :: ·) id (readPackets bufSize calls rest)
    | (.error error, _) => ([], some error)

def ReadsAs (bufSize : BufSize) (frame : List Byte) (packet : MultiBuffer) : Prop :=
  ∀ rest, LengthPacketReader.readMultiBuffer bufSize (frame ++ rest) = (.ok packet, rest)

def FailsShort (bufSize : BufSize) (frame : List Byte) : Prop :=
  ∀ count < frame.length, ∃ error rest,
    LengthPacketReader.readMultiBuffer bufSize (frame.take count) = (.error error, rest)

/-- How the reader takes apart the stream of `frames`: given one more call than there are
packets, it returns `packets` one per call and then reports the end of the stream; on a strict
prefix of the stream it returns the packets of the frames wholly inside the prefix and then an
error. -/
structure StreamReadsBack (bufSize : BufSize) (frames : List (List Byte))
    (packets : List MultiBuffer) : Prop where
  reads_all : ∀ extra : Nat, readPackets bufSize (packets.length + extra + 1) frames.flatten =
    (packets, some (.length .eof))
  reads_prefix : ∀ extra : Nat, ∀ count < frames.flatten.length, ∃ whole < packets.length,
    (frames.take whole).flatten.length ≤ count ∧
      count < (frames.take (whole + 1)).flatten.length ∧
      ∃ error, readPackets bufSize (packets.length + extra + 1) (frames.flatten.take count) =
        (packets.take whole, some error)

theorem read_packets_nil (bufSize : BufSize) (calls : Nat) :
    readPackets bufSize (calls + 1) [] = ([], some (.length .eof)) := rfl

theorem read_packets_reads_as {bufSize : BufSize} {frame : List Byte} {packet : MultiBuffer}
    (reads : ReadsAs bufSize frame packet) (calls : Nat) (rest : List Byte) :
    readPackets bufSize (calls + 1) (frame ++ rest) =
      Prod.map (packet :: ·) id (readPackets bufSize calls rest) := by
  rw [readPackets, reads]

theorem read_packets_flatten {bufSize : BufSize} {frames : List (List Byte)}
    {packets : List MultiBuffer} (reads : List.Forall₂ (ReadsAs bufSize) frames packets)
    (extra : Nat) :
    readPackets bufSize (packets.length + extra + 1) frames.flatten =
      (packets, some (.length .eof)) := by
  induction reads with
  | nil => exact read_packets_nil bufSize extra
  | @cons frame packet frames packets readsAs _ ih =>
    rw [List.flatten_cons, List.length_cons,
      show packets.length + 1 + extra + 1 = packets.length + extra + 1 + 1 by omega,
      read_packets_reads_as readsAs, ih]
    rfl

theorem read_packets_take {bufSize : BufSize} {frames : List (List Byte)}
    {packets : List MultiBuffer} (reads : List.Forall₂ (ReadsAs bufSize) frames packets)
    (short : ∀ frame ∈ frames, FailsShort bufSize frame) (extra : Nat) :
    ∀ count < frames.flatten.length, ∃ whole < packets.length,
      (frames.take whole).flatten.length ≤ count ∧
        count < (frames.take (whole + 1)).flatten.length ∧
        ∃ error, readPackets bufSize (packets.length + extra + 1) (frames.flatten.take count) =
          (packets.take whole, some error) := by
  induction reads with
  | nil => simp
  | @cons frame packet frames packets readsAs _ ih =>
    intro count inside
    rw [List.length_cons, show packets.length + 1 + extra + 1 = packets.length + extra + 1 + 1
      by omega, List.flatten_cons]
    by_cases inFrame : count < frame.length
    · obtain ⟨error, rest, read⟩ := short frame (List.mem_cons_self _ _) count inFrame
      refine ⟨0, by simp, by simp, by simpa using inFrame, error, ?_⟩
      rw [List.take_append_of_le_length inFrame.le, readPackets, read]
      rfl
    · have later : count - frame.length < frames.flatten.length := by
        simp only [List.flatten_cons, List.length_append] at inside
        omega
      obtain ⟨whole, wholeLt, lower, upper, error, read⟩ :=
        ih (fun f member => short f (List.mem_cons_of_mem _ member)) _ later
      refine ⟨whole + 1, by simpa using wholeLt, ?_, ?_, error, ?_⟩
      · simp only [List.take_succ_cons, List.flatten_cons, List.length_append]
        omega
      · simp only [List.take_succ_cons, List.flatten_cons, List.length_append]
        omega
      · rw [List.take_append_eq_append_take, List.take_of_length_le (by omega),
          read_packets_reads_as readsAs, read]
        rfl

theorem stream_reads_back {bufSize : BufSize} {frames : List (List Byte)}
    {packets : List MultiBuffer} (reads : List.Forall₂ (ReadsAs bufSize) frames packets)
    (short : ∀ frame ∈ frames, FailsShort bufSize frame) :
    StreamReadsBack bufSize frames packets :=
  ⟨read_packets_flatten reads, read_packets_take reads short⟩

theorem exists_forall₂ {α β : Type} {R : α → β → Prop} :
    ∀ {xs : List β}, (∀ x ∈ xs, ∃ a, R a x) → ∃ as, List.Forall₂ R as xs
  | [], _ => ⟨[], .nil⟩
  | x :: xs, related => by
    obtain ⟨a, head⟩ := related x (List.mem_cons_self _ _)
    obtain ⟨as, tail⟩ := exists_forall₂ fun y member => related y (List.mem_cons_of_mem _ member)
    exact ⟨a :: as, .cons head tail⟩

theorem stream_reads_back_map {α : Type} {bufSize : BufSize} {Related : MultiBuffer → α → Prop}
    {frame : α → List Byte} {sent : List α}
    (each : ∀ x ∈ sent, FailsShort bufSize (frame x) ∧
      ∃ packet, Related packet x ∧ ReadsAs bufSize (frame x) packet) :
    ∃ packets, List.Forall₂ Related packets sent ∧
      StreamReadsBack bufSize (sent.map frame) packets := by
  have related : ∀ x ∈ sent, ∃ packet,
      Related packet x ∧ ReadsAs bufSize (frame x) packet := fun x member => (each x member).2
  obtain ⟨packets, pairs⟩ := exists_forall₂ related
  refine ⟨packets, pairs.imp fun _ _ both => both.1, stream_reads_back ?_ ?_⟩
  · exact List.forall₂_map_left_iff.mpr (pairs.flip.imp fun _ _ both => both.2)
  · simp only [List.mem_map]
    rintro _ ⟨x, member, rfl⟩
    exact (each x member).1

theorem fails_short_length_packet (bufSize : BufSize) {payload : List Byte}
    (fits : payload.length < 65536) :
    FailsShort bufSize (lengthHeader payload.length ++ payload) := fun count short =>
  read_multi_buffer_prefix bufSize fits (by simpa [Nat.add_comm] using short)

def lengthPacketWrites : LengthPacketWriter → List MultiBuffer → List (List Byte)
  | _, [] => []
  | w, mb :: ms =>
    (w.writeMultiBuffer mb).1.toList ++ lengthPacketWrites (w.writeMultiBuffer mb).2 ms

theorem length_packet_writes_new (ms : List MultiBuffer) :
    lengthPacketWrites newLengthPacketWriter ms =
      (ms.filter (·.len ≠ 0)).map fun mb => lengthHeader mb.len ++ mb.bytes := by
  induction ms with
  | nil => rfl
  | cons mb ms ih =>
    by_cases empty : mb.len = 0
    · simp [lengthPacketWrites, LengthPacketWriter.writeMultiBuffer, empty, ih]
    · simp [lengthPacketWrites, write_multi_buffer_of_ne_zero mb empty, empty, ih]

/-- `LengthPacketWriter` and `LengthPacketReader` agree on every sequence of writes of at most
65535 bytes each: the reader returns each non-empty multi-buffer as one packet, chunked into
buffers of at most `buf.Size` bytes, and never a partial packet from a truncated stream. -/
theorem length_packet_stream_round_trip (bufSize : BufSize) (ms : List MultiBuffer)
    (fits : ∀ mb ∈ ms, mb.len ≤ 65535) :
    ∃ packets : List MultiBuffer,
      List.Forall₂ (fun packet (mb : MultiBuffer) => Chunked bufSize mb.bytes packet) packets
        (ms.filter (·.len ≠ 0)) ∧
      StreamReadsBack bufSize (lengthPacketWrites newLengthPacketWriter ms) packets := by
  rw [length_packet_writes_new]
  apply stream_reads_back_map
  intro mb member
  have small : mb.bytes.length < 65536 := by
    rw [MultiBuffer.bytes_length]
    exact Nat.lt_succ_of_le (fits mb (List.mem_of_mem_filter member))
  obtain ⟨chunks, chunked, read⟩ := read_multi_buffer_length_packet bufSize small
  rw [← MultiBuffer.bytes_length]
  exact ⟨fails_short_length_packet bufSize small, chunks, chunked, read⟩

theorem length_packet_stream_round_trip_five_bytes :
    ∃ packets : List MultiBuffer,
      List.Forall₂ (fun packet (mb : MultiBuffer) => Chunked ⟨4, by decide⟩ mb.bytes packet)
        packets ([[⟨0, [1, 2, 3, 4, 5], 5, le_refl _⟩]].filter (·.len ≠ 0)) ∧
      StreamReadsBack ⟨4, by decide⟩
        (lengthPacketWrites newLengthPacketWriter [[⟨0, [1, 2, 3, 4, 5], 5, le_refl _⟩]]) packets :=
  length_packet_stream_round_trip ⟨4, by decide⟩ _ (by simp [MultiBuffer.len, Buffer.len])

def multiLengthPacketWrites (bufSize : BufSize) (ms : List MultiBuffer) : List (List Byte) :=
  ms.flatMap fun mb =>
    ((MultiLengthPacketWriter.writeMultiBuffer bufSize mb).getD []).map Buffer.bytes

theorem write_multi_buffer_get_d (bufSize : BufSize) (mb : MultiBuffer) :
    (MultiLengthPacketWriter.writeMultiBuffer bufSize mb).getD [] =
      mb.filterMap (frameBuffer bufSize) := by
  unfold MultiLengthPacketWriter.writeMultiBuffer
  dsimp only
  split
  · rename_i empty
    exact (List.isEmpty_iff.mp empty).symm
  · rfl

theorem multi_length_packet_writes_eq (bufSize : BufSize) (ms : List MultiBuffer) :
    multiLengthPacketWrites bufSize ms =
      (ms.flatten.filter (Retained bufSize ·)).map fun b => lengthHeader b.len ++ b.bytes := by
  induction ms with
  | nil => rfl
  | cons mb ms ih =>
    rw [multiLengthPacketWrites, List.flatMap_cons, ← multiLengthPacketWrites, ih,
      write_multi_buffer_get_d, filter_map_frame_buffer]
    simp

/-- `MultiLengthPacketWriter` and `LengthPacketReader` agree on every sequence of writes: the
reader returns, one per call and in order, each buffer the writer keeps as a one-buffer packet
with the same bytes, and nothing else. The 16-bit header holds every kept length as long as
`buf.Size` is at most 65537. -/
theorem multi_length_packet_stream_round_trip (bufSize : BufSize) (small : bufSize.size ≤ 65537)
    (ms : List MultiBuffer) :
    ∃ packets : List MultiBuffer,
      List.Forall₂ (fun packet (b : Buffer) => packet.map Buffer.bytes = [b.bytes]) packets
        (ms.flatten.filter (Retained bufSize ·)) ∧
      StreamReadsBack bufSize (multiLengthPacketWrites bufSize ms) packets := by
  rw [multi_length_packet_writes_eq]
  apply stream_reads_back_map
  intro b member
  obtain ⟨nonempty, fits⟩ : Retained bufSize b := by simpa using (List.mem_filter.mp member).2
  have small : b.bytes.length < 65536 := by simp only [Buffer.len] at fits; omega
  obtain ⟨b', sameBytes, read⟩ :=
    read_multi_buffer_single bufSize nonempty (by simp only [Buffer.len] at fits; omega) small
  exact ⟨fails_short_length_packet bufSize small, [b'], by simp [sameBytes], read⟩

theorem multi_length_packet_stream_round_trip_small_buffers :
    ∃ packets : List MultiBuffer,
      List.Forall₂ (fun packet (b : Buffer) => packet.map Buffer.bytes = [b.bytes]) packets
        ([[⟨0, [7], 1, le_refl _⟩, ⟨0, [], 0, le_refl _⟩]].flatten.filter
          (Retained ⟨2048, by decide⟩ ·)) ∧
      StreamReadsBack ⟨2048, by decide⟩
        (multiLengthPacketWrites ⟨2048, by decide⟩
          [[⟨0, [7], 1, le_refl _⟩, ⟨0, [], 0, le_refl _⟩]]) packets :=
  multi_length_packet_stream_round_trip ⟨2048, by decide⟩ (by decide) _

end XrayProxy.Vless.PacketStream
