import XrayProxy.Buf.Buffer

/-!
# The WireGuard inbound `Process`

`Server.Process` hands the datagrams of one external connection to the WireGuard device: it
parses the connection's remote address into the bind's endpoint `nep`, attaches the connection
to it, and then reads multi-buffers from the connection's packet reader; every payload is copied
into an element taken from the bind's `readQueue`, whose waiter is then signalled. The packet
reader's results, the endpoint parser and the elements the device's workers put in the queue
are inputs. The queue yields its elements in order and then is either closed or empty for good.
-/

namespace XrayProxy.Wireguard.Process

open XrayProxy.Buf

set_option autoImplicit false

structure Conn where
  remoteAddr : String
  deriving DecidableEq, Repr

inductive GoError
  | eof
  | other (text : String)
  deriving DecidableEq, Repr

structure NetEndpoint where
  dst : String
  deriving DecidableEq, Repr

structure QueueElement where
  buff : List Byte
  bytes : Nat
  endpoint : Option NetEndpoint
  err : Option IoError
  waiterDone : Nat

/-- What the device's workers put in `readQueue`: elements in order, then a closed channel or
none at all. -/
structure ReadQueue where
  elements : List QueueElement
  closed : Bool

inductive Received
  | element (v : QueueElement) (queue : ReadQueue)
  | closed
  | blocked

def ReadQueue.receive (queue : ReadQueue) : Received :=
  match queue.elements with
  | v :: elements => .element v ⟨elements, queue.closed⟩
  | [] => if queue.closed then .closed else .blocked

/-- The loop body for one payload: `i, err := payload.Read(v.buff)` and the four stores, the last
signalling the waiter. -/
def fill (nep : NetEndpoint) (payload : Buffer) (v : QueueElement) :
    QueueElement × Option IoError :=
  let (copied, err, _) := payload.read v.buff.length
  ({ buff := copied ++ v.buff.drop copied.length
     bytes := copied.length
     endpoint := some nep
     err := err
     waiterDone := v.waiterDone + 1 }, err)

inductive Outcome
  | returned (result : Except GoError Unit)
  | blocked

/-- Where `Process` got to: its outcome, the elements it filled in order, and `nep.conn`. -/
structure Run where
  outcome : Outcome
  filled : List QueueElement
  nepConn : Option Conn

inductive PayloadsDone
  | next (queue : ReadQueue) (filled : List QueueElement)
  | ended (run : Run)

def payloadLoop (conn : Conn) (nep : NetEndpoint) :
    MultiBuffer → ReadQueue → List QueueElement → PayloadsDone
  | [], queue, filled => .next queue filled
  | payload :: mpayload, queue, filled =>
    match queue.receive with
    | .closed => .ended ⟨.returned (.ok ()), filled, some conn⟩
    | .blocked => .ended ⟨.blocked, filled, some conn⟩
    | .element v queue =>
      let (v, err) := fill nep payload v
      if err = some .eof then .ended ⟨.returned (.ok ()), filled ++ [v], none⟩
      else payloadLoop conn nep mpayload queue (filled ++ [v])

/-- The outer loop: `reads` are the reader's multi-buffers, `readError` the error it reports
after them. -/
def readLoop (conn : Conn) (nep : NetEndpoint) (readError : GoError) :
    List MultiBuffer → ReadQueue → List QueueElement → Run
  | [], _, filled => ⟨.returned (.error readError), filled, some conn⟩
  | mpayload :: reads, queue, filled =>
    match payloadLoop conn nep mpayload queue filled with
    | .next queue filled => readLoop conn nep readError reads queue filled
    | .ended run => run

/-- `Server.Process` on `conn`: `none` when `ParseEndpoint` fails and `Process` returns its error
before touching any endpoint. -/
def process (parseEndpoint : String → Except GoError NetEndpoint) (conn : Conn)
    (reads : List MultiBuffer) (readError : GoError) (queue : ReadQueue) :
    Except GoError Run :=
  match parseEndpoint conn.remoteAddr with
  | .error err => .error err
  | .ok nep => .ok (readLoop conn nep readError reads queue [])

def handedOff (nep : NetEndpoint) (payload : Buffer) (v : QueueElement) : QueueElement :=
  { buff := payload.bytes ++ v.buff.drop payload.len
    bytes := payload.len
    endpoint := some nep
    err := none
    waiterDone := v.waiterDone + 1 }

theorem fill_of_fits (nep : NetEndpoint) {payload : Buffer} {v : QueueElement}
    (nonempty : 0 < payload.len) (fits : payload.len ≤ v.buff.length) :
    fill nep payload v = (handedOff nep payload v, none) := by
  have notNil : payload.bytes ≠ [] := List.ne_nil_of_length_pos nonempty
  have whole : payload.bytes.take v.buff.length = payload.bytes := List.take_of_length_le fits
  simp [fill, Buffer.read, notNil, whole, Buffer.len, handedOff]

theorem fill_of_empty (nep : NetEndpoint) {payload : Buffer} (empty : payload.bytes = [])
    (v : QueueElement) : (fill nep payload v).2 = some .eof := by
  simp [fill, Buffer.read, empty]

/-- `Process`'s loops read as one loop over the payloads in the order the reader returns them:
each payload takes the next element of the queue and fills it, and `io.EOF` ends the run. -/
def handOff (conn : Conn) (nep : NetEndpoint) (readError : GoError) :
    List Buffer → ReadQueue → List QueueElement → Run
  | [], _, filled => ⟨.returned (.error readError), filled, some conn⟩
  | payload :: payloads, queue, filled =>
    match queue.receive with
    | .closed => ⟨.returned (.ok ()), filled, some conn⟩
    | .blocked => ⟨.blocked, filled, some conn⟩
    | .element v queue =>
      let (v, err) := fill nep payload v
      if err = some .eof then ⟨.returned (.ok ()), filled ++ [v], none⟩
      else handOff conn nep readError payloads queue (filled ++ [v])

def handed (nep : NetEndpoint) (payloads : List Buffer) (elements : List QueueElement) :
    List QueueElement :=
  List.zipWith (fun payload v => (fill nep payload v).1) payloads elements

/-- The ways `Process` ends on a parsed endpoint, each with exactly the elements it fills and
what it leaves in `nep.conn`: at the first payload whose read reports `io.EOF`, clearing
`nep.conn`; with the reader's error once every payload has had an element; or, with payloads
left over, on a closed queue (returning `nil`) or an empty one (waiting for good). -/
inductive Ends (conn : Conn) (nep : NetEndpoint) (readError : GoError) (payloads : List Buffer)
    (elements : List QueueElement) (closed : Bool) : Run → Prop
  | eof (before : List QueueElement) (v : QueueElement) (after : List QueueElement) :
      handed nep payloads elements = before ++ v :: after → v.err = some .eof →
      (∀ w ∈ before, w.err ≠ some .eof) →
      Ends conn nep readError payloads elements closed ⟨.returned (.ok ()), before ++ [v], none⟩
  | readerError : payloads.length ≤ elements.length →
      (∀ w ∈ handed nep payloads elements, w.err ≠ some .eof) →
      Ends conn nep readError payloads elements closed
        ⟨.returned (.error readError), handed nep payloads elements, some conn⟩
  | queueClosed : closed = true → elements.length < payloads.length →
      (∀ w ∈ handed nep payloads elements, w.err ≠ some .eof) →
      Ends conn nep readError payloads elements closed
        ⟨.returned (.ok ()), handed nep payloads elements, some conn⟩
  | queueEmpty : closed = false → elements.length < payloads.length →
      (∀ w ∈ handed nep payloads elements, w.err ≠ some .eof) →
      Ends conn nep readError payloads elements closed
        ⟨.blocked, handed nep payloads elements, some conn⟩

section OneLoop

variable (conn : Conn) (nep : NetEndpoint) (readError : GoError)

theorem fill_err (payload : Buffer) (v : QueueElement) :
    (fill nep payload v).1.err = (fill nep payload v).2 := rfl

theorem hand_off_element (payload : Buffer) (payloads : List Buffer) (v : QueueElement)
    (elements : List QueueElement) (closed : Bool) (filled : List QueueElement) :
    handOff conn nep readError (payload :: payloads) ⟨v :: elements, closed⟩ filled =
      if (fill nep payload v).2 = some .eof then
        ⟨.returned (.ok ()), filled ++ [(fill nep payload v).1], none⟩
      else
        handOff conn nep readError payloads ⟨elements, closed⟩
          (filled ++ [(fill nep payload v).1]) := by
  simp only [handOff, ReadQueue.receive]

theorem Ends.cons {payload : Buffer} {payloads : List Buffer} {v : QueueElement}
    {elements : List QueueElement} {closed : Bool} {run : Run}
    (clean : (fill nep payload v).2 ≠ some .eof)
    (ends : Ends conn nep readError payloads elements closed run) :
    Ends conn nep readError (payload :: payloads) (v :: elements) closed
      { run with filled := [(fill nep payload v).1] ++ run.filled } := by
  have cleanHead : (fill nep payload v).1.err ≠ some .eof := by rwa [fill_err]
  cases ends with
  | eof before w after split eof cleanBefore =>
    refine .eof ((fill nep payload v).1 :: before) w after (congrArg (_ :: ·) split) eof ?_
    simpa [cleanHead] using cleanBefore
  | readerError enough cleanAll =>
    exact .readerError (Nat.succ_le_succ enough) (by simpa [handed, cleanHead] using cleanAll)
  | queueClosed closedEq short cleanAll =>
    exact .queueClosed closedEq (Nat.succ_lt_succ short)
      (by simpa [handed, cleanHead] using cleanAll)
  | queueEmpty openEq short cleanAll =>
    exact .queueEmpty openEq (Nat.succ_lt_succ short) (by simpa [handed, cleanHead] using cleanAll)

theorem hand_off_append (mpayload : MultiBuffer) (payloads : List Buffer) (queue : ReadQueue)
    (filled : List QueueElement) :
    handOff conn nep readError (mpayload ++ payloads) queue filled =
      match payloadLoop conn nep mpayload queue filled with
      | .next queue filled => handOff conn nep readError payloads queue filled
      | .ended run => run := by
  induction mpayload generalizing queue filled with
  | nil => rfl
  | cons payload mpayload ih =>
    simp only [List.cons_append, handOff, payloadLoop]
    cases queue.receive with
    | closed | blocked => rfl
    | element v queue =>
      dsimp only
      split
      · rfl
      · exact ih queue _

theorem read_loop_eq_hand_off (reads : List MultiBuffer) (queue : ReadQueue)
    (filled : List QueueElement) :
    readLoop conn nep readError reads queue filled =
      handOff conn nep readError reads.flatten queue filled := by
  induction reads generalizing queue filled with
  | nil => rfl
  | cons mpayload reads ih =>
    rw [List.flatten_cons, hand_off_append, readLoop]
    split <;> simp only [ih]

theorem hand_off_fits {room : Nat} {payloads : List Buffer} {elements : List QueueElement}
    (nonempty : ∀ payload ∈ payloads, 0 < payload.len)
    (fits : ∀ payload ∈ payloads, payload.len ≤ room)
    (roomy : ∀ v ∈ elements, room ≤ v.buff.length) (enough : payloads.length ≤ elements.length)
    (closed : Bool) (filled : List QueueElement) :
    handOff conn nep readError payloads ⟨elements, closed⟩ filled =
      ⟨.returned (.error readError), filled ++ List.zipWith (handedOff nep) payloads elements,
        some conn⟩ := by
  induction payloads generalizing elements filled with
  | nil => simp [handOff]
  | cons payload payloads ih =>
    obtain ⟨v, elements, rfl⟩ :=
      List.exists_cons_of_length_pos (show 0 < elements.length by simp at enough; omega)
    rw [List.forall_mem_cons] at nonempty fits roomy
    rw [hand_off_element, fill_of_fits nep nonempty.1 (fits.1.trans roomy.1), if_neg nofun,
      ih nonempty.2 fits.2 roomy.2 (by simpa using enough)]
    simp

theorem process_hands_off {parseEndpoint : String → Except GoError NetEndpoint}
    (parsed : parseEndpoint conn.remoteAddr = .ok nep) {room : Nat} {reads : List MultiBuffer}
    {elements : List QueueElement} (nonempty : ∀ payload ∈ reads.flatten, 0 < payload.len)
    (fits : ∀ payload ∈ reads.flatten, payload.len ≤ room)
    (roomy : ∀ v ∈ elements, room ≤ v.buff.length)
    (enough : reads.flatten.length ≤ elements.length) (closed : Bool) :
    process parseEndpoint conn reads readError ⟨elements, closed⟩ =
      .ok ⟨.returned (.error readError), List.zipWith (handedOff nep) reads.flatten elements,
        some conn⟩ := by
  rw [process, parsed]
  exact congrArg _ ((read_loop_eq_hand_off conn nep readError reads _ []).trans
    (hand_off_fits conn nep readError nonempty fits roomy enough closed []))

theorem read_loop_empty_payload {payload : Buffer} (empty : payload.bytes = [])
    (mpayload : MultiBuffer) (reads : List MultiBuffer) (v : QueueElement)
    (elements : List QueueElement) (closed : Bool) :
    readLoop conn nep readError ((payload :: mpayload) :: reads) ⟨v :: elements, closed⟩ [] =
      ⟨.returned (.ok ()), [(fill nep payload v).1], none⟩ := by
  have eof := fill_of_empty nep empty v
  simp only [readLoop, payloadLoop, ReadQueue.receive]
  rw [if_pos eof]
  rfl

end OneLoop

/-- Two runs of `Process` on a connection parsed to its own address, with a queue of elements of
`buf.Size` bytes. One datagram of one byte followed by `io.EOF` from the reader: `Process` returns
`io.EOF` with `nep.conn` still attached. A zero-length payload: `Process` returns `nil` and clears
`nep.conn` though the stream has not ended. -/
theorem process_eof_keeps_conn_empty_payload_clears :
    process (fun addr => .ok ⟨addr⟩) ⟨"198.51.100.7:51820"⟩ [[⟨0, [0x45], 1, le_refl _⟩]] .eof
        ⟨[⟨List.replicate 8192 0, 0, none, none, 0⟩], false⟩ =
      .ok ⟨.returned (.error .eof),
        [handedOff ⟨"198.51.100.7:51820"⟩ ⟨0, [0x45], 1, le_refl _⟩
          ⟨List.replicate 8192 0, 0, none, none, 0⟩],
        some ⟨"198.51.100.7:51820"⟩⟩ ∧
    process (fun addr => .ok ⟨addr⟩) ⟨"198.51.100.7:51820"⟩ [[⟨0, [], 8192, Nat.zero_le _⟩]]
        .eof ⟨[⟨List.replicate 8192 0, 0, none, none, 0⟩], false⟩ =
      .ok ⟨.returned (.ok ()),
        [(fill ⟨"198.51.100.7:51820"⟩ ⟨0, [], 8192, Nat.zero_le _⟩
          ⟨List.replicate 8192 0, 0, none, none, 0⟩).1], none⟩ :=
  ⟨@process_hands_off _ _ .eof _ rfl 8192 _ _ (by simp [Buffer.len]) (by simp [Buffer.len])
      (by simp only [List.mem_singleton, forall_eq, List.length_replicate, le_refl])
      (by simp only [List.flatten, List.length_singleton, List.length_append, List.length_nil,
        List.append_nil, le_refl]) false,
    congrArg Except.ok (read_loop_empty_payload _ _ .eof rfl [] [] _ [] false)⟩

end XrayProxy.Wireguard.Process
