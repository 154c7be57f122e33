import XrayProxy.Vless.Addons

/-!
# The addon header

A VLESS header carries its `Addons` as one length byte and the record's protobuf encoding.
`EncodeHeaderAddons` sends the record only when it has the vision flow or a seed, and a single
zero byte otherwise; `DecodeHeaderAddons` reads the length byte and, when it is not zero, that
many bytes, which it unmarshals into a fresh record. The length byte is `byte(len(bytes))`, so
a record whose encoding has 256 bytes or more is announced with its length modulo 256.

The protobuf runtime is not part of the slice. `marshalAddons` and the encoders it is built
from (`varint` to `marshalScheduler`) are modelled from the wire schema the specification gives
for the record, not from source: base-128 varints, keys of field number and wire type, proto3's
rule that an empty string, empty bytes or a zero number is not sent, and a negative enum number
as its 64-bit two's complement. The decoder takes `proto.Unmarshal` as a parameter.
-/

namespace XrayProxy.Vless

open XrayProxy.Buf

set_option autoImplicit false

def varint (n : Nat) : List Byte :=
  if n < 128 then [UInt8.ofNat n] else UInt8.ofNat (n % 128 + 128) :: varint (n / 128)
termination_by n
decreasing_by omega

theorem varint_of_lt {n : Nat} (small : n < 128) : varint n = [UInt8.ofNat n] := by
  rw [varint, if_pos small]

theorem varint_of_ge {n : Nat} (large : 128 ≤ n) :
    varint n = UInt8.ofNat (n % 128 + 128) :: varint (n / 128) := by
  rw [varint, if_neg (by omega)]

def varintField (number value : Nat) : List Byte :=
  if value = 0 then [] else varint (number * 8) ++ varint value

def lengthDelimited (number : Nat) (bytes : List Byte) : List Byte :=
  varint (number * 8 + 2) ++ varint bytes.length ++ bytes

def bytesField (number : Nat) (bytes : List Byte) : List Byte :=
  if bytes = [] then [] else lengthDelimited number bytes

@[simp] theorem varint_field_zero (number : Nat) : varintField number 0 = [] := rfl

@[simp] theorem bytes_field_nil (number : Nat) : bytesField number [] = [] := rfl

def messageField (number : Nat) : Option (List Byte) → List Byte
  | none => []
  | some bytes => lengthDelimited number bytes

@[simp] theorem message_field_none (number : Nat) : messageField number none = [] := rfl

def utf8 (s : String) : List Byte := s.toUTF8.data.toList

@[simp] theorem utf8_empty : utf8 "" = [] := rfl

def enumNumber (number : Int) : Nat := (number % 18446744073709551616).toNat

@[simp] theorem enum_number_zero : enumNumber 0 = 0 := rfl

def marshalPadding (padding : PaddingConfig) : List Byte :=
  varintField 1 padding.regularMin ++ varintField 2 padding.regularMax ++
    varintField 3 padding.longMin ++ varintField 4 padding.longMax

def marshalDelay (delay : DelayConfig) : List Byte :=
  varintField 1 (if delay.isRandom then 1 else 0) ++ varintField 2 delay.minMillis ++
    varintField 3 delay.maxMillis

def marshalScheduler (scheduler : SchedulerConfig) : List Byte :=
  varintField 1 scheduler.timeoutMillis

/-- Modelled from the spec: `proto.Marshal(addons)`, field 1 `Flow`, 2 `Seed`, 3 `Mode`,
4 `Duration`, 5 to 7 the sub-records. -/
def marshalAddons (addons : Addons) : List Byte :=
  bytesField 1 (utf8 addons.flow) ++ bytesField 2 addons.seed ++
    varintField 3 (enumNumber addons.mode.number) ++ bytesField 4 (utf8 addons.duration) ++
    messageField 5 (addons.padding.map marshalPadding) ++
    messageField 6 (addons.delay.map marshalDelay) ++
    messageField 7 (addons.scheduler.map marshalScheduler)

theorem bytes_field_ne_nil {number : Nat} {bytes : List Byte} (sent : bytes ≠ []) :
    bytesField number bytes ≠ [] := by
  rw [bytesField, if_neg sent, lengthDelimited, varint]
  split <;> simp

theorem marshal_addons_ne_nil {addons : Addons}
    (carried : addons.flow = xrv ∨ addons.seed.length > 0) :
    marshalAddons addons ≠ [] := by
  have sent : bytesField 1 (utf8 addons.flow) ≠ [] ∨ bytesField 2 addons.seed ≠ [] := by
    rcases carried with vision | seeded
    · exact .inl (bytes_field_ne_nil (by rw [vision]; decide))
    · exact .inr (bytes_field_ne_nil (List.ne_nil_of_length_pos seeded))
  simp only [marshalAddons, ne_eq, List.append_eq_nil]
  tauto

inductive HeaderError
  | writeLength (cause : BufferError)
  | readLength (cause : BufferError)
  | readValue (cause : BufferError)
  | unmarshal (cause : String)
  deriving DecidableEq, Repr

def HeaderError.message : HeaderError → String
  | .writeLength _ => "failed to write addons protobuf length"
  | .readLength _ => "failed to read addons protobuf length"
  | .readValue _ => "failed to read addons protobuf value"
  | .unmarshal _ => "failed to unmarshal addons protobuf value"

def encodeHeaderAddons (buffer : Buffer) (addons : Addons) : Except HeaderError Buffer :=
  if addons.flow = xrv ∨ addons.seed.length > 0 then
    let bytes := marshalAddons addons
    match buffer.writeByte (UInt8.ofNat bytes.length) with
    | .error cause => .error (.writeLength cause)
    | .ok buffer => .ok (buffer.write bytes).2
  else
    match buffer.writeByte 0 with
    | .error cause => .error (.writeLength cause)
    | .ok buffer => .ok buffer

/-- `DecodeHeaderAddons(buffer, reader)`: the record or the error, and what is left of the reader.
`unmarshal` is `proto.Unmarshal` into a fresh record. -/
def decodeHeaderAddons (unmarshal : List Byte → Except String Addons) (buffer : Buffer)
    (reader : List Byte) : Except HeaderError Addons × List Byte :=
  match buffer.clear.readFullFrom 1 reader with
  | (.error cause, rest) => (.error (.readLength cause), rest)
  | (.ok read, rest) =>
    let length := (read.bytes.getD 0 0).toNat
    if length ≠ 0 then
      match read.clear.readFullFrom length rest with
      | (.error cause, rest) => (.error (.readValue cause), rest)
      | (.ok value, rest) => ((unmarshal value.bytes).mapError .unmarshal, rest)
    else (.ok Addons.empty, rest)

/-- The bytes the header announces: the record's encoding when it has the vision flow or a seed,
and nothing otherwise. -/
def headerValue (addons : Addons) : List Byte :=
  if addons.flow = xrv ∨ addons.seed.length > 0 then marshalAddons addons else []

def headerRecord (addons : Addons) : Addons :=
  if addons.flow = xrv ∨ addons.seed.length > 0 then addons else Addons.empty

theorem encode_header_addons_eq (buffer : Buffer) (addons : Addons)
    (room : buffer.stop < buffer.capacity) :
    ∃ written, encodeHeaderAddons buffer addons = .ok written ∧
      written.bytes = buffer.bytes ++ UInt8.ofNat (headerValue addons).length ::
        (headerValue addons).take (buffer.capacity - buffer.stop - 1) := by
  unfold encodeHeaderAddons headerValue
  split
  · obtain ⟨lengthWritten, write, bytesEq, stopEq, capacityEq⟩ :=
      Buffer.write_byte_of_lt (UInt8.ofNat (marshalAddons addons).length) room
    refine ⟨_, by dsimp only; rw [write], ?_⟩
    simp only [Buffer.write, bytesEq, stopEq, capacityEq, List.append_assoc, List.singleton_append]
    rfl
  · obtain ⟨lengthWritten, write, bytesEq, -, -⟩ := Buffer.write_byte_of_lt 0 room
    exact ⟨_, by rw [write], by simp [bytesEq]⟩

theorem decode_header_addons_prefixed (unmarshal : List Byte → Except String Addons)
    (buffer : Buffer) (value rest : List Byte) (room : 255 ≤ buffer.capacity) :
    decodeHeaderAddons unmarshal buffer (UInt8.ofNat value.length :: (value ++ rest)) =
      if value.length % 256 = 0 then (.ok Addons.empty, value ++ rest)
      else ((unmarshal (value.take (value.length % 256))).mapError .unmarshal,
        value.drop (value.length % 256) ++ rest) := by
  obtain ⟨read, readLength, readBytes, readCapacity⟩ :=
    @Buffer.read_full_from_append buffer.clear 1 [UInt8.ofNat value.length] (value ++ rest) rfl
      (by simp only [Buffer.clear_stop, Buffer.clear_capacity]; omega)
  have lengthByte : (read.bytes.getD 0 0).toNat = value.length % 256 := by
    simp [readBytes]
  unfold decodeHeaderAddons
  rw [← List.singleton_append, readLength]
  simp only [lengthByte]
  split
  · rename_i announced
    have takeLength : (value.take (value.length % 256)).length = value.length % 256 := by
      simp only [List.length_take]
      omega
    obtain ⟨valueRead, readValue, valueBytes, -⟩ :=
      @Buffer.read_full_from_append read.clear _ _ (value.drop (value.length % 256) ++ rest)
        takeLength (by simp only [Buffer.clear_stop, Buffer.clear_capacity, readCapacity]; omega)
    rw [← List.append_assoc, List.take_append_drop] at readValue
    simp [readValue, valueBytes]
  · rename_i wrapped
    rw [if_pos (not_not.mp wrapped)]

/-- The header round trip, when the value fits the length byte: the decoder returns the record
the header carries, given an unmarshaller that inverts the marshaller on it, and leaves exactly
what followed the header unread. -/
theorem decode_header_addons_encode_header_addons (unmarshal : List Byte → Except String Addons)
    (buffer decodeBuffer : Buffer) (addons : Addons) (rest : List Byte)
    (room : buffer.stop + 1 + (headerValue addons).length ≤ buffer.capacity)
    (fits : (headerValue addons).length < 256) (decodeRoom : 255 ≤ decodeBuffer.capacity)
    (inverse : unmarshal (marshalAddons addons) = .ok addons) :
    ∃ written, encodeHeaderAddons buffer addons = .ok written ∧
      ∃ header, written.bytes = buffer.bytes ++ header ∧
        decodeHeaderAddons unmarshal decodeBuffer (header ++ rest) =
          (.ok (headerRecord addons), rest) := by
  obtain ⟨written, encoded, writtenBytes⟩ := encode_header_addons_eq buffer addons (by omega)
  refine ⟨written, encoded, _, writtenBytes, ?_⟩
  rw [List.take_of_length_le (by omega), List.cons_append,
    decode_header_addons_prefixed unmarshal decodeBuffer _ rest decodeRoom, Nat.mod_eq_of_lt fits]
  unfold headerValue headerRecord
  split
  · rename_i carried
    simp [marshal_addons_ne_nil carried, inverse, List.take_of_length_le, Except.mapError]
  · simp

theorem decode_header_addons_encode_header_addons_vision :
    let addons : Addons := ⟨xrv, [], ⟨0⟩, "", none, none, none⟩
    ∃ written, encodeHeaderAddons (Buffer.new ⟨8192, by decide⟩) addons = .ok written ∧
      ∃ header, written.bytes = (Buffer.new ⟨8192, by decide⟩).bytes ++ header ∧
        decodeHeaderAddons (fun _ => .ok addons) (Buffer.new ⟨8192, by decide⟩) (header ++ []) =
          (.ok (headerRecord addons), []) := by
  intro addons
  have flowBytes : (utf8 xrv).length = 16 := by decide
  have flowSent : utf8 xrv ≠ [] := by decide
  have valueLength : (headerValue addons).length = 18 := by
    rw [headerValue, if_pos (.inl rfl)]
    simp only [addons, marshalAddons, bytesField, if_neg flowSent, lengthDelimited, flowBytes,
      @varint_of_lt 10 (by decide), @varint_of_lt 16 (by decide), bytes_field_nil, utf8_empty,
      enum_number_zero, varint_field_zero, message_field_none, Option.map_none', if_true,
      List.length_append, List.length_singleton]
    rfl
  exact decode_header_addons_encode_header_addons _ _ _ addons [] (by simp [valueLength])
    (by omega) (by decide) rfl

/-- A record whose encoding is 256 bytes long, a seed of 253 bytes and nothing else: the encoder
reports success after announcing a length of 0, and the decoder returns an empty record after
one byte, leaving the whole encoding unread. -/
theorem header_addons_long_seed_wraps (unmarshal : List Byte → Except String Addons)
    (rest : List Byte) :
    let addons : Addons := { Addons.empty with seed := List.replicate 253 1 }
    let value : List Byte := [0x12, 0xFD, 0x01] ++ List.replicate 253 1
    marshalAddons addons = value ∧ value.length = 256 ∧
      (encodeHeaderAddons (Buffer.new ⟨8192, by decide⟩) addons).map Buffer.bytes =
        .ok (0 :: value) ∧
      decodeHeaderAddons unmarshal (Buffer.new ⟨8192, by decide⟩) (0 :: (value ++ rest)) =
        (.ok Addons.empty, value ++ rest) := by
  intro addons value
  have seedSent : List.replicate 253 (1 : Byte) ≠ [] := List.cons_ne_nil _ _
  have marshalled : marshalAddons addons = value := by
    simp only [addons, value, marshalAddons, Addons.empty, utf8_empty, bytes_field_nil,
      enum_number_zero, varint_field_zero, message_field_none, Option.map_none', bytesField,
      if_neg seedSent, if_true, lengthDelimited, List.length_replicate,
      @varint_of_lt 18 (by decide), @varint_of_ge 253 (by decide), @varint_of_lt 1 (by decide),
      List.nil_append, List.append_nil, List.cons_append, List.singleton_append]
    rfl
  have valueLength : value.length = 256 := by
    simp only [value, List.length_append, List.length_replicate]
    rfl
  have carried : addons.flow = xrv ∨ addons.seed.length > 0 := .inr (List.length_pos.mpr seedSent)
  obtain ⟨written, encoded, writtenBytes⟩ :=
    encode_header_addons_eq (Buffer.new ⟨8192, by decide⟩) addons (by decide)
  refine ⟨marshalled, valueLength, ?_, ?_⟩
  · rw [encoded]
    show Except.ok written.bytes = _
    rw [writtenBytes, headerValue, if_pos carried, marshalled, valueLength,
      List.take_of_length_le (by rw [valueLength]; decide)]
    rfl
  · have prefixed := decode_header_addons_prefixed unmarshal (Buffer.new ⟨8192, by decide⟩) value
      rest (by decide)
    rw [valueLength, if_pos (by decide)] at prefixed
    exact prefixed

end XrayProxy.Vless
