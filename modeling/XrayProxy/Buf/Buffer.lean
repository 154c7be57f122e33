import Mathlib.Data.List.Basic
import Mathlib.Algebra.Group.Nat.Basic

/-!
# Buffers of the `buf` package

The framing code reads and writes through `buf.Buffer`, a byte array of fixed capacity with a
read offset `start` and a write offset `end`, and through `io.ReadFull` on the underlying stream.
Neither lies in this slice of the repository, so both are modelled here from what the framing
code relies on: `WriteByte` fails once `end` reaches the capacity, `Write` copies what fits and
never fails, `Read` reports `io.EOF` exactly on an empty buffer, and `io.ReadFull` on a stream
that ends early drains it and reports `io.EOF` or `io.ErrUnexpectedEOF`. A stream is the list of
bytes not yet read. Lengths are natural numbers where Go's `Len()` returns an `int32`: the model
agrees with the code on buffers and multi-buffers of fewer than `2^31 - 2` bytes, beyond which
`length+2 > buf.Size` and `MultiBuffer.Len` wrap in Go; no caller of the framing code sends such
a buffer.
-/

namespace XrayProxy.Buf

set_option autoImplicit false

abbrev Byte := UInt8

@[simp] theorem byte_to_nat_of_nat (n : Nat) : (UInt8.ofNat n).toNat = n % 256 := by
  simp [UInt8.toNat, UInt8.ofNat]

inductive IoError
  | eof
  | unexpectedEof
  deriving DecidableEq, Repr

/-- `io.ReadFull` of `count` bytes: the bytes read, and the stream left. -/
def readFull (count : Nat) (stream : List Byte) : Except IoError (List Byte) × List Byte :=
  if count ≤ stream.length then (.ok (stream.take count), stream.drop count)
  else if stream = [] then (.error .eof, [])
  else (.error .unexpectedEof, [])

@[simp] theorem read_full_append {count : Nat} {data rest : List Byte}
    (lengthEq : data.length = count) :
    readFull count (data ++ rest) = (.ok data, rest) := by
  subst lengthEq
  simp [readFull]

theorem read_full_short {count : Nat} {stream : List Byte} (short : stream.length < count) :
    ∃ error, readFull count stream = (.error error, []) := by
  unfold readFull
  rw [if_neg (by omega)]
  split <;> exact ⟨_, rfl⟩

theorem read_full_ok_length {count : Nat} {stream data rest : List Byte}
    (read : readFull count stream = (.ok data, rest)) : data.length = count := by
  unfold readFull at read
  split at read
  · cases read
    simp [*]
  · split at read <;> cases read

/-- `buf.Size`, the capacity of every buffer `buf.New` hands out. The constant belongs to the
`buf` package; the results hold for each positive value. -/
structure BufSize where
  size : Nat
  size_pos : 0 < size

/-- Errors of `buf.Buffer`: `"buffer full"` from `WriteByte`, `"out of bound: "` from
`ReadFullFrom`, and the stream's own errors. -/
inductive BufferError
  | full
  | outOfBound (stop : Nat)
  | io (cause : IoError)
  deriving DecidableEq, Repr

/-- A `buf.Buffer`: `bytes` is `v[start:end]`, and `end` never passes the capacity. -/
structure Buffer where
  start : Nat
  bytes : List Byte
  capacity : Nat
  stop_le : start + bytes.length ≤ capacity

namespace Buffer

def new (bufSize : BufSize) : Buffer := ⟨0, [], bufSize.size, Nat.zero_le _⟩

def len (b : Buffer) : Nat := b.bytes.length

def stop (b : Buffer) : Nat := b.start + b.bytes.length

/-- `WriteByte`: fails with `"buffer full"` once `end` is the capacity. -/
def writeByte (b : Buffer) (v : Byte) : Except BufferError Buffer :=
  if full : b.stop = b.capacity then .error .full
  else .ok ⟨b.start, b.bytes ++ [v], b.capacity, by
    have := b.stop_le
    simp only [stop] at full
    simp only [List.length_append, List.length_singleton]
    omega⟩

/-- `Write`: copies what fits after `end` and returns the count; it never fails. -/
def write (b : Buffer) (data : List Byte) : Nat × Buffer :=
  let copied := data.take (b.capacity - b.stop)
  (copied.length, ⟨b.start, b.bytes ++ copied, b.capacity, by
    have := b.stop_le
    simp only [copied, stop, List.length_append, List.length_take]
    omega⟩)

def clear (b : Buffer) : Buffer := ⟨0, [], b.capacity, Nat.zero_le _⟩

/-- `Read` into a destination of `room` bytes: the bytes copied, the error, and the buffer
afterwards. Only an empty buffer reports `io.EOF`. -/
def read (b : Buffer) (room : Nat) : List Byte × Option IoError × Buffer :=
  if b.bytes = [] then ([], some .eof, b)
  else
    let copied := b.bytes.take room
    if copied.length = b.len then (copied, none, b.clear)
    else (copied, none, ⟨b.start + copied.length, b.bytes.drop room, b.capacity, by
      have := b.stop_le
      simp only [copied, List.length_take, List.length_drop]
      omega⟩)

/-- `ReadFullFrom(reader, size)`: exactly `size` bytes appended at `end`, or an error. -/
def readFullFrom (b : Buffer) (size : Nat) (stream : List Byte) :
    Except BufferError Buffer × List Byte :=
  if outside : b.capacity < b.stop + size then (.error (.outOfBound (b.stop + size)), stream)
  else
    match read : readFull size stream with
    | (.ok data, rest) => (.ok ⟨b.start, b.bytes ++ data, b.capacity, by
        have := read_full_ok_length read
        simp only [stop] at outside
        simp only [List.length_append]
        omega⟩, rest)
    | (.error cause, rest) => (.error (.io cause), rest)

@[simp] theorem new_bytes (bufSize : BufSize) : (new bufSize).bytes = [] := rfl

@[simp] theorem new_stop (bufSize : BufSize) : (new bufSize).stop = 0 := rfl

@[simp] theorem new_capacity (bufSize : BufSize) : (new bufSize).capacity = bufSize.size := rfl

@[simp] theorem clear_bytes (b : Buffer) : b.clear.bytes = [] := rfl

@[simp] theorem clear_stop (b : Buffer) : b.clear.stop = 0 := rfl

@[simp] theorem clear_capacity (b : Buffer) : b.clear.capacity = b.capacity := rfl

theorem write_byte_of_lt {b : Buffer} (v : Byte) (room : b.stop < b.capacity) :
    ∃ b', b.writeByte v = .ok b' ∧ b'.bytes = b.bytes ++ [v] ∧ b'.stop = b.stop + 1 ∧
      b'.capacity = b.capacity := by
  refine ⟨_, dif_neg (by omega), rfl, ?_, rfl⟩
  simp [stop, Nat.add_assoc]

theorem write_bytes_of_le {b : Buffer} {data : List Byte}
    (room : b.stop + data.length ≤ b.capacity) : (b.write data).2.bytes = b.bytes ++ data := by
  simp only [write, List.take_of_length_le (by omega : data.length ≤ b.capacity - b.stop)]

theorem new_read_full_from {bufSize : BufSize} {count : Nat} {data rest : List Byte}
    (lengthEq : data.length = count) (fits : count ≤ bufSize.size) :
    (new bufSize).readFullFrom count (data ++ rest) =
      (.ok ⟨0, data, bufSize.size, by rw [Nat.zero_add, lengthEq]; exact fits⟩, rest) := by
  unfold readFullFrom
  rw [dif_neg (by simp; omega)]
  split
  · rename_i got left read
    rw [read_full_append lengthEq] at read
    cases read
    rfl
  · rename_i read
    simp [read_full_append lengthEq] at read

theorem read_full_from_append {b : Buffer} {count : Nat} {data rest : List Byte}
    (lengthEq : data.length = count) (fits : b.stop + count ≤ b.capacity) :
    ∃ read, b.readFullFrom count (data ++ rest) = (.ok read, rest) ∧
      read.bytes = b.bytes ++ data ∧ read.capacity = b.capacity := by
  unfold readFullFrom
  rw [dif_neg (by omega)]
  split
  · rename_i got left read
    rw [read_full_append lengthEq] at read
    cases read
    exact ⟨_, rfl, rfl, rfl⟩
  · rename_i read
    simp [read_full_append lengthEq] at read

theorem read_full_from_short {b : Buffer} {count : Nat} {stream : List Byte}
    (short : stream.length < count) :
    ∃ error rest, b.readFullFrom count stream = (.error error, rest) := by
  unfold readFullFrom
  split
  · exact ⟨_, _, rfl⟩
  · obtain ⟨cause, read⟩ := read_full_short short
    split
    · rename_i read'
      rw [read] at read'
      cases read'
    · exact ⟨_, _, rfl⟩

end Buffer

abbrev MultiBuffer := List Buffer

namespace MultiBuffer

def len : MultiBuffer → Nat
  | [] => 0
  | b :: mb => b.len + len mb

def bytes (mb : MultiBuffer) : List Byte := mb.flatMap Buffer.bytes

@[simp] theorem bytes_nil : bytes [] = [] := rfl

@[simp] theorem bytes_cons (b : Buffer) (mb : MultiBuffer) :
    bytes (b :: mb) = b.bytes ++ mb.bytes :=
  List.flatMap_cons _ _ _

@[simp] theorem bytes_length (mb : MultiBuffer) : mb.bytes.length = mb.len := by
  induction mb with
  | nil => rfl
  | cons b mb ih => rw [bytes_cons, List.length_append, ih, len, Buffer.len]

end MultiBuffer

end XrayProxy.Buf
