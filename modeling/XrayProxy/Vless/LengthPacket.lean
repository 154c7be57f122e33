import XrayProxy.Buf.Buffer

/-!
# Length-prefixed packets

The datagram framing of the VLESS encoding: a packet on the wire is a 16-bit big-endian length
followed by that many bytes. `MultiLengthPacketWriter` frames every buffer of a multi-buffer on
its own and drops those that do not fit one fresh buffer with their header;
`LengthPacketWriter` frames a whole multi-buffer at once; `LengthPacketReader` reads one frame
back as buffers of at most `buf.Size` bytes. This module gives the three functions and what one
frame does; the stream of frames is in `XrayProxy.Vless.PacketStream`.
-/

namespace XrayProxy.Vless.LengthPacket

open XrayProxy.Buf

set_option autoImplicit false

def lengthHeader (length : Nat) : List Byte := [UInt8.ofNat (length >>> 8), UInt8.ofNat length]

def headerLength (cache : List Byte) : Nat :=
  (cache.getD 0 0).toNat <<< 8 ||| (cache.getD 1 0).toNat

@[simp] theorem length_header_length (length : Nat) : (lengthHeader length).length = 2 := rfl

theorem header_length_length_header {length : Nat} (fits : length < 65536) :
    headerLength (lengthHeader length) = length := by
  simp only [headerLength, lengthHeader, List.getD_cons_zero, List.getD_cons_succ,
    byte_to_nat_of_nat, Nat.shiftRight_eq_div_pow, Nat.shiftLeft_eq]
  rw [Nat.mod_eq_of_lt (by omega : length / 2 ^ 8 < 256), Nat.mul_comm,
    ← Nat.mul_add_lt_is_or (by omega : length % 256 < 2 ^ 8)]
  omega

theorem header_length_length_header_mod (length : Nat) :
    headerLength (lengthHeader length) = length % 65536 := by
  simp only [headerLength, lengthHeader, List.getD_cons_zero, List.getD_cons_succ,
    byte_to_nat_of_nat, Nat.shiftRight_eq_div_pow, Nat.shiftLeft_eq]
  rw [Nat.mul_comm, ← Nat.mul_add_lt_is_or (by omega : length % 256 < 2 ^ 8)]
  omega

/-- The loop body of `MultiLengthPacketWriter.WriteMultiBuffer` for one buffer `b`: the fresh
buffer `eb` holding header and payload, or `none` where the loop `continue`s. `Write` never
fails, so the third error branch of the source has nothing to catch. -/
def frameBuffer (bufSize : BufSize) (b : Buffer) : Option Buffer :=
  let length := b.len
  if length = 0 ∨ length + 2 > bufSize.size then none
  else
    match (Buffer.new bufSize).writeByte (UInt8.ofNat (length >>> 8)) with
    | .error _ => none
    | .ok eb =>
      match eb.writeByte (UInt8.ofNat length) with
      | .error _ => none
      | .ok eb => some (eb.write b.bytes).2

/-- `MultiLengthPacketWriter.WriteMultiBuffer`: the multi-buffer handed to the wrapped
`buf.Writer`, or `none` when there is nothing to write. -/
def MultiLengthPacketWriter.writeMultiBuffer (bufSize : BufSize) (mb : MultiBuffer) :
    Option MultiBuffer :=
  let mb2Write := mb.filterMap (frameBuffer bufSize)
  if mb2Write.isEmpty then none else some mb2Write

def Retained (bufSize : BufSize) (b : Buffer) : Prop := 0 < b.len ∧ b.len + 2 ≤ bufSize.size

instance (bufSize : BufSize) (b : Buffer) : Decidable (Retained bufSize b) :=
  inferInstanceAs (Decidable (_ ∧ _))

theorem frame_buffer_of_retained {bufSize : BufSize} {b : Buffer} (retained : Retained bufSize b) :
    ∃ eb, frameBuffer bufSize b = some eb ∧ eb.bytes = lengthHeader b.len ++ b.bytes := by
  obtain ⟨nonempty, fits⟩ := retained
  obtain ⟨eb₁, write₁, bytes₁, stop₁, capacity₁⟩ :=
    (Buffer.new bufSize).write_byte_of_lt (UInt8.ofNat (b.len >>> 8)) (by simp; omega)
  obtain ⟨eb₂, write₂, bytes₂, stop₂, capacity₂⟩ :=
    eb₁.write_byte_of_lt (UInt8.ofNat b.len) (by simp at stop₁ capacity₁; omega)
  have room : eb₂.stop + b.bytes.length ≤ eb₂.capacity := by
    simp only [Buffer.len] at fits
    simp at stop₁ capacity₁
    omega
  refine ⟨(eb₂.write b.bytes).2, ?_, ?_⟩
  · simp only [frameBuffer, if_neg (by omega : ¬(b.len = 0 ∨ b.len + 2 > bufSize.size)),
      write₁, write₂]
  · simp [Buffer.write_bytes_of_le room, bytes₂, bytes₁, lengthHeader]

theorem frame_buffer_eq_none {bufSize : BufSize} {b : Buffer} (dropped : ¬Retained bufSize b) :
    frameBuffer bufSize b = none := by
  simp only [Retained, not_and_or, Nat.not_lt, Nat.not_le] at dropped
  simp only [frameBuffer]
  rw [if_pos (by omega)]

theorem filter_map_frame_buffer (bufSize : BufSize) (mb : MultiBuffer) :
    (mb.filterMap (frameBuffer bufSize)).map Buffer.bytes =
      (mb.filter (Retained bufSize ·)).map fun b => lengthHeader b.len ++ b.bytes := by
  induction mb with
  | nil => rfl
  | cons b mb ih =>
    by_cases retained : Retained bufSize b
    · obtain ⟨eb, framed, bytes⟩ := frame_buffer_of_retained retained
      simp [List.filterMap_cons, framed, bytes, ih, retained]
    · simp [List.filterMap_cons, frame_buffer_eq_none retained, ih, retained]

structure LengthPacketWriter where
  cache : List Byte

def newLengthPacketWriter : LengthPacketWriter := ⟨[]⟩

/-- `LengthPacketWriter.WriteMultiBuffer`: the bytes of its one `Write` to the wrapped writer
(`none` for an empty multi-buffer, which writes nothing) and the writer afterwards, its `cache`
emptied by the deferred reset. -/
def LengthPacketWriter.writeMultiBuffer (w : LengthPacketWriter) (mb : MultiBuffer) :
    Option (List Byte) × LengthPacketWriter :=
  let length := mb.len
  if length = 0 then (none, w)
  else (some (mb.foldl (fun cache b => cache ++ b.bytes) (w.cache ++ lengthHeader length)), ⟨[]⟩)

theorem foldl_append_bytes (mb : MultiBuffer) (cache : List Byte) :
    mb.foldl (fun cache b => cache ++ b.bytes) cache = cache ++ mb.bytes := by
  induction mb generalizing cache with
  | nil => simp [MultiBuffer.bytes]
  | cons b mb ih => simp [ih, MultiBuffer.bytes]

theorem write_multi_buffer_of_ne_zero (mb : MultiBuffer) (nonempty : mb.len ≠ 0) :
    newLengthPacketWriter.writeMultiBuffer mb =
      (some (lengthHeader mb.len ++ mb.bytes), newLengthPacketWriter) := by
  simp [LengthPacketWriter.writeMultiBuffer, nonempty, foldl_append_bytes, newLengthPacketWriter]

inductive PacketError
  | length (cause : IoError)
  | payload (cause : BufferError)
  deriving DecidableEq, Repr

def PacketError.message : PacketError → String
  | .length _ => "failed to read packet length"
  | .payload _ => "failed to read packet payload"

/-- The payload loop of `LengthPacketReader.ReadMultiBuffer`: `mb` holds the buffers read so
far and `length` the bytes still owed. -/
def readPayload (bufSize : BufSize) (mb : MultiBuffer) (length : Nat) (stream : List Byte) :
    Except PacketError MultiBuffer × List Byte :=
  if _ : length = 0 then (.ok mb, stream)
  else
    let size := min length bufSize.size
    match (Buffer.new bufSize).readFullFrom size stream with
    | (.error cause, rest) => (.error (.payload cause), rest)
    | (.ok b, rest) => readPayload bufSize (mb ++ [b]) (length - size) rest
termination_by length
decreasing_by have := bufSize.size_pos; omega

def LengthPacketReader.readMultiBuffer (bufSize : BufSize) (stream : List Byte) :
    Except PacketError MultiBuffer × List Byte :=
  match readFull 2 stream with
  | (.error cause, rest) => (.error (.length cause), rest)
  | (.ok cache, rest) => readPayload bufSize [] (headerLength cache) rest

/-- What the payload loop returns for `payload`: buffers of at most `buf.Size` bytes,
`⌈|payload| / buf.Size⌉` of them, whose bytes are `payload` in order. -/
structure Chunked (bufSize : BufSize) (payload : List Byte) (chunks : MultiBuffer) : Prop where
  bytes_eq : chunks.bytes = payload
  length_eq : chunks.length = (payload.length + bufSize.size - 1) / bufSize.size
  len_le : ∀ b ∈ chunks, b.len ≤ bufSize.size

theorem ceil_div_step {length size : Nat} (sizePos : 0 < size) (lengthPos : 0 < length) :
    (length + size - 1) / size = (length - min length size + size - 1) / size + 1 := by
  by_cases small : length ≤ size
  · rw [Nat.min_eq_left small, Nat.sub_self, Nat.zero_add,
      show length + size - 1 = length - 1 + size by omega, Nat.add_div_right _ sizePos,
      Nat.div_eq_of_lt (show length - 1 < size by omega),
      Nat.div_eq_of_lt (show size - 1 < size by omega)]
  · rw [Nat.min_eq_right (by omega), ← Nat.add_div_right _ sizePos]
    congr 1
    omega

theorem read_payload_append (bufSize : BufSize) (payload : List Byte) :
    ∃ chunks, Chunked bufSize payload chunks ∧ ∀ (mb : MultiBuffer) (rest : List Byte),
      readPayload bufSize mb payload.length (payload ++ rest) = (.ok (mb ++ chunks), rest) := by
  have sizePos := bufSize.size_pos
  by_cases empty : payload = []
  · subst empty
    refine ⟨[], ⟨rfl, (Nat.div_eq_of_lt (by simp; omega)).symm, by simp⟩, fun mb rest => ?_⟩
    rw [readPayload]
    simp
  · have lengthPos : 0 < payload.length := List.length_pos.mpr empty
    obtain ⟨size, sizeEq⟩ : ∃ size, min payload.length bufSize.size = size := ⟨_, rfl⟩
    have sizeLe : size ≤ bufSize.size := sizeEq ▸ Nat.min_le_right _ _
    have takeLength : (payload.take size).length = size := by simp; omega
    obtain ⟨chunks, chunked, read⟩ := read_payload_append bufSize (payload.drop size)
    refine ⟨⟨0, payload.take size, bufSize.size, by simp; omega⟩ :: chunks, ⟨?_, ?_, ?_⟩,
      fun mb rest => ?_⟩
    · rw [MultiBuffer.bytes_cons, chunked.bytes_eq]
      exact List.take_append_drop _ _
    · rw [List.length_cons, chunked.length_eq, List.length_drop,
        ceil_div_step sizePos lengthPos, sizeEq]
    · intro b member
      rcases List.mem_cons.mp member with same | later
      · subst same
        simpa [Buffer.len, takeLength] using sizeLe
      · exact chunked.len_le b later
    · have split : payload ++ rest = payload.take size ++ (payload.drop size ++ rest) := by
        rw [← List.append_assoc, List.take_append_drop]
      rw [readPayload, dif_neg (by omega)]
      dsimp only
      rw [sizeEq, split, Buffer.new_read_full_from takeLength sizeLe]
      dsimp only
      rw [show payload.length - size = (payload.drop size).length by simp, read]
      simp
termination_by payload.length
decreasing_by simp only [List.length_drop]; omega

theorem read_payload_short (bufSize : BufSize) (mb : MultiBuffer) (length : Nat)
    (stream : List Byte) (short : stream.length < length) :
    ∃ error rest, readPayload bufSize mb length stream = (.error error, rest) := by
  rw [readPayload, dif_neg (by omega)]
  dsimp only
  obtain ⟨size, sizeEq⟩ : ∃ size, min length bufSize.size = size := ⟨_, rfl⟩
  have sizeLe : size ≤ bufSize.size := sizeEq ▸ Nat.min_le_right _ _
  rw [sizeEq]
  by_cases enough : size ≤ stream.length
  · have split : stream = stream.take size ++ stream.drop size := by simp
    have takeLength : (stream.take size).length = size := by simp; omega
    rw [split, Buffer.new_read_full_from takeLength sizeLe]
    exact read_payload_short bufSize _ _ _ (by simp; omega)
  · obtain ⟨error, rest, read⟩ :=
      @Buffer.read_full_from_short (Buffer.new bufSize) _ _ (by omega : stream.length < size)
    rw [read]
    exact ⟨_, _, rfl⟩
termination_by length
decreasing_by have := bufSize.size_pos; omega

theorem read_multi_buffer_frame (bufSize : BufSize) {payload : List Byte}
    (fits : payload.length < 65536) (rest : List Byte) :
    LengthPacketReader.readMultiBuffer bufSize (lengthHeader payload.length ++ payload ++ rest) =
      readPayload bufSize [] payload.length (payload ++ rest) := by
  simp only [LengthPacketReader.readMultiBuffer, List.append_assoc,
    read_full_append (length_header_length _), header_length_length_header fits]

theorem read_multi_buffer_length_packet (bufSize : BufSize) {payload : List Byte}
    (fits : payload.length < 65536) :
    ∃ chunks, Chunked bufSize payload chunks ∧ ∀ rest : List Byte,
      LengthPacketReader.readMultiBuffer bufSize (lengthHeader payload.length ++ payload ++ rest) =
        (.ok chunks, rest) := by
  obtain ⟨chunks, chunked, read⟩ := read_payload_append bufSize payload
  refine ⟨chunks, chunked, fun rest => ?_⟩
  rw [read_multi_buffer_frame bufSize fits, read]
  rfl

theorem read_multi_buffer_single (bufSize : BufSize) {payload : List Byte}
    (nonempty : 0 < payload.length) (fits : payload.length ≤ bufSize.size)
    (small : payload.length < 65536) :
    ∃ b : Buffer, b.bytes = payload ∧ ∀ rest : List Byte,
      LengthPacketReader.readMultiBuffer bufSize (lengthHeader payload.length ++ payload ++ rest) =
        (.ok [b], rest) := by
  obtain ⟨chunks, chunked, read⟩ := read_multi_buffer_length_packet bufSize small
  have one : chunks.length = 1 := by
    rw [chunked.length_eq]
    exact Nat.div_eq_of_lt_le (by omega) (by omega)
  match chunks, one, chunked, read with
  | [b], _, chunked, read => exact ⟨b, by simpa using chunked.bytes_eq, read⟩

theorem read_multi_buffer_prefix (bufSize : BufSize) {payload : List Byte}
    (fits : payload.length < 65536) {count : Nat} (short : count < payload.length + 2) :
    ∃ error rest, LengthPacketReader.readMultiBuffer bufSize
      ((lengthHeader payload.length ++ payload).take count) = (.error error, rest) := by
  by_cases inHeader : count < 2
  · have short : ((lengthHeader payload.length ++ payload).take count).length < 2 := by
      simp
      omega
    obtain ⟨cause, read⟩ := read_full_short short
    simp only [LengthPacketReader.readMultiBuffer, read]
    exact ⟨_, _, rfl⟩
  · rw [List.take_append_eq_append_take, List.take_of_length_le (by simp; omega),
      length_header_length]
    simp only [LengthPacketReader.readMultiBuffer, read_full_append (length_header_length _),
      header_length_length_header fits]
    exact read_payload_short bufSize [] _ _ (by simp; omega)

/-- Whatever the length of a non-empty multi-buffer `M`, `LengthPacketWriter` writes it as one
frame, and the reader takes from that frame only the first `|M| mod 65536` bytes of `M`, chunked,
leaving the rest of `M` in front of whatever follows: the 16-bit header keeps only the low bits of
the length. -/
theorem length_packet_frame_reads_length_mod (bufSize : BufSize) (mb : MultiBuffer)
    (nonempty : mb.len ≠ 0) (rest : List Byte) :
    ∃ frame chunks,
      newLengthPacketWriter.writeMultiBuffer mb = (some frame, newLengthPacketWriter) ∧
      Chunked bufSize (mb.bytes.take (mb.len % 65536)) chunks ∧
      LengthPacketReader.readMultiBuffer bufSize (frame ++ rest) =
        (.ok chunks, mb.bytes.drop (mb.len % 65536) ++ rest) := by
  obtain ⟨chunks, chunked, read⟩ := read_payload_append bufSize (mb.bytes.take (mb.len % 65536))
  have takeLength : (mb.bytes.take (mb.len % 65536)).length = mb.len % 65536 := by
    simp only [List.length_take, MultiBuffer.bytes_length]
    omega
  refine ⟨_, chunks, write_multi_buffer_of_ne_zero mb nonempty, chunked, ?_⟩
  have payload := read [] (mb.bytes.drop (mb.len % 65536) ++ rest)
  rw [takeLength, List.nil_append, ← List.append_assoc, List.take_append_drop] at payload
  rw [List.append_assoc, LengthPacketReader.readMultiBuffer,
    read_full_append (length_header_length _)]
  dsimp only
  rw [header_length_length_header_mod, payload]

theorem length_packet_frame_reads_length_mod_nine_full_buffers :
    let b : Buffer := ⟨0, List.replicate 8192 0, 8192,
      (Nat.zero_add _).trans_le (List.length_replicate _ _).le⟩
    let mb : MultiBuffer := [b, b, b, b, b, b, b, b, b]
    mb.len ≠ 0 ∧ ∃ frame chunks,
      newLengthPacketWriter.writeMultiBuffer mb = (some frame, newLengthPacketWriter) ∧
      Chunked ⟨8192, by decide⟩ (mb.bytes.take (mb.len % 65536)) chunks ∧
      LengthPacketReader.readMultiBuffer ⟨8192, by decide⟩ (frame ++ []) =
        (.ok chunks, mb.bytes.drop (mb.len % 65536) ++ []) := by
  intro b mb
  have nonempty : mb.len ≠ 0 := by
    simp only [mb, b, MultiBuffer.len, Buffer.len, List.length_replicate]
    omega
  exact ⟨nonempty, length_packet_frame_reads_length_mod ⟨8192, by decide⟩ mb nonempty []⟩

end XrayProxy.Vless.LengthPacket
