import XrayProxy.Buf.Buffer

/-!
# The SplitHTTP upload producer

Once its download request is accepted, `Dial` starts a producer goroutine. It reads multi-buffers
from the upload pipe; for each it waits on a semaphore of `maxConcurrentUploads` permits, builds
the POST URL from a counter and spawns an uploader goroutine, which sends the chunk and releases
its permit by a deferred `Signal` on each of its four exit paths. The state holds the pipe as
the producer sees it, the producer's program point, the counter, the tokens in the semaphore's
channel, what each uploader captured and where it is, and the history of chunks read. `step` is
one atomic action of the caller on the pipe, of the producer, or of one uploader; an
interleaving is any sequence of such actions. A write after the caller's `Close` leaves the pipe
as it is: `uploadWriter.Write` discards the error of `Flush`, so the bytes are dropped. The
pipe's size limit only delays the caller's writes and is left out, so every invariant below
covers the limited pipe as well. The results: the semaphore's permits are conserved, the
uploaders are numbered in the order the chunks were read, what the caller writes before its
`Close` reaches the uploaders with nothing lost, duplicated or reordered, and from every
reachable state the goroutines can wind down.
-/

namespace XrayProxy.SplitHttp.Upload

open XrayProxy.Buf

set_option autoImplicit false

def formatInt (bits : Nat) : String :=
  if bits < 2 ^ 63 then toString bits else "-" ++ toString (2 ^ 64 - bits)

/-- Where the producer goroutine is: in `uploadPipeReader.ReadMultiBuffer`, in
`<-requestsLimiter.Wait()` holding the chunk it read, or out of the loop. -/
inductive Producer
  | reading
  | waiting (chunk : MultiBuffer)
  | stopped

def Producer.pending : Producer → List MultiBuffer
  | .waiting chunk => [chunk]
  | _ => []

inductive Stage
  | building
  | sending
  | exited
  deriving DecidableEq, Repr

structure Uploader where
  url : String
  chunk : MultiBuffer

/-- `uploaders` and `stages` list every uploader spawned, in spawn order; `chunksRead` is the
history of what the producer read. -/
structure UploadState where
  pipe : MultiBuffer
  pipeClosed : Bool
  producer : Producer
  requestCounter : Nat
  permits : Nat
  uploaders : List Uploader
  stages : List Stage
  chunksRead : List MultiBuffer

/-- One atomic action: the caller writes into or closes the pipe; the producer's read or wait
returns; uploader `index` fails to build its request, builds it, fails in `Do`, or gets a
response. -/
inductive Event
  | write (mb : MultiBuffer)
  | close
  | read
  | acquire
  | buildFailed (index : Nat)
  | built (index : Nat)
  | doFailed (index : Nat)
  | responded (index : Nat) (statusCode : Nat)

def Event.byCaller : Event → Bool
  | .write _ | .close => true
  | _ => false

def Event.written : Event → MultiBuffer
  | .write mb => mb
  | _ => []

def Event.closes : Event → Bool
  | .close => true
  | _ => false

def Event.returnOf : Event → Option (Nat × Stage)
  | .buildFailed index => some (index, .building)
  | .doFailed index | .responded index _ => some (index, .sending)
  | _ => none

/-- What the caller writes before its first `Close`. -/
def writtenBeforeClose : List Event → MultiBuffer
  | [] => []
  | event :: events => if event.closes then [] else event.written ++ writtenBeforeClose events

section Machine

variable (uploadUrl : String) (maxConcurrentUploads : Nat)

def initial : UploadState := ⟨[], false, .reading, 0, maxConcurrentUploads, [], [], []⟩

def uploaderSends (s : UploadState) (index : Nat) : Option UploadState :=
  if s.stages[index]? = some .building then some { s with stages := s.stages.set index .sending }
  else none

def uploaderReturns (s : UploadState) (index : Nat) (stage : Stage) : Option UploadState :=
  if s.stages[index]? = some stage ∧ s.permits < maxConcurrentUploads then
    some { s with permits := s.permits + 1, stages := s.stages.set index .exited }
  else none

/-- One action; `none` where it is not enabled. -/
def step (s : UploadState) : Event → Option UploadState
  | .write mb => if s.pipeClosed then some s else some { s with pipe := s.pipe ++ mb }
  | .close => some { s with pipeClosed := true }
  | .read =>
    match s.producer with
    | .reading =>
      if s.pipe.isEmpty then
        if s.pipeClosed then some { s with producer := .stopped } else none
      else
        some { s with
          pipe := []
          producer := .waiting s.pipe
          chunksRead := s.chunksRead ++ [s.pipe] }
    | _ => none
  | .acquire =>
    match s.producer with
    | .waiting chunk =>
      if 0 < s.permits then
        some { s with
          permits := s.permits - 1
          producer := .reading
          requestCounter := (s.requestCounter + 1) % 2 ^ 64
          uploaders := s.uploaders ++ [⟨uploadUrl ++ formatInt s.requestCounter, chunk⟩]
          stages := s.stages ++ [.building] }
      else none
    | _ => none
  | .buildFailed index => uploaderReturns maxConcurrentUploads s index .building
  | .built index => uploaderSends s index
  | .doFailed index => uploaderReturns maxConcurrentUploads s index .sending
  | .responded index _ => uploaderReturns maxConcurrentUploads s index .sending

inductive Reachable : UploadState → Prop
  | initial : Reachable (initial maxConcurrentUploads)
  | step {s s' : UploadState} (event : Event) :
      Reachable s → step uploadUrl maxConcurrentUploads s event = some s' → Reachable s'

def run (s : UploadState) : List Event → Option UploadState
  | [] => some s
  | event :: events => (step uploadUrl maxConcurrentUploads s event).bind (run · events)

/-- What one action can do, guards included: the step relation read off `step` once, so that
each invariant is a case per constructor. -/
inductive Moves (s : UploadState) : Event → UploadState → Prop
  | write (mb : MultiBuffer) : s.pipeClosed = false →
      Moves s (.write mb) { s with pipe := s.pipe ++ mb }
  | dropped (mb : MultiBuffer) : s.pipeClosed = true → Moves s (.write mb) s
  | close : Moves s .close { s with pipeClosed := true }
  | stop : s.producer = .reading → s.pipe = [] → s.pipeClosed = true →
      Moves s .read { s with producer := .stopped }
  | read : s.producer = .reading → s.pipe ≠ [] →
      Moves s .read { s with
        pipe := []
        producer := .waiting s.pipe
        chunksRead := s.chunksRead ++ [s.pipe] }
  | acquire (chunk : MultiBuffer) : s.producer = .waiting chunk → 0 < s.permits →
      Moves s .acquire { s with
        permits := s.permits - 1
        producer := .reading
        requestCounter := (s.requestCounter + 1) % 2 ^ 64
        uploaders := s.uploaders ++ [⟨uploadUrl ++ formatInt s.requestCounter, chunk⟩]
        stages := s.stages ++ [.building] }
  | sends (index : Nat) : s.stages[index]? = some .building →
      Moves s (.built index) { s with stages := s.stages.set index .sending }
  | returns (event : Event) (index : Nat) (stage : Stage) : event.returnOf = some (index, stage) →
      s.stages[index]? = some stage → stage ≠ .exited → s.permits < maxConcurrentUploads →
      Moves s event { s with permits := s.permits + 1, stages := s.stages.set index .exited }

end Machine

theorem Event.quiet_of_return {event : Event} {returned : Nat × Stage}
    (returning : event.returnOf = some returned) : event.written = [] ∧ event.closes = false := by
  cases event <;> first | exact ⟨rfl, rfl⟩ | cases returning

theorem Event.written_of_closes {event : Event} (closing : event.closes = true) :
    event.written = [] := by
  cases event <;> first | rfl | cases closing

section Invariants

variable {uploadUrl : String} {maxConcurrentUploads : Nat} {s s' : UploadState}

theorem uploader_sends_eq {index : Nat} (moved : uploaderSends s index = some s') :
    s.stages[index]? = some .building ∧ s' = { s with stages := s.stages.set index .sending } := by
  unfold uploaderSends at moved
  split at moved
  · exact ⟨‹_›, (Option.some.inj moved).symm⟩
  · cases moved

theorem uploader_returns_eq {index : Nat} {stage : Stage}
    (moved : uploaderReturns maxConcurrentUploads s index stage = some s') :
    s.stages[index]? = some stage ∧ s.permits < maxConcurrentUploads ∧
      s' = { s with permits := s.permits + 1, stages := s.stages.set index .exited } := by
  unfold uploaderReturns at moved
  split at moved
  · exact ⟨‹_ ∧ _›.1, ‹_ ∧ _›.2, (Option.some.inj moved).symm⟩
  · cases moved

theorem step_moves {event : Event}
    (stepped : step uploadUrl maxConcurrentUploads s event = some s') :
    Moves uploadUrl maxConcurrentUploads s event s' := by
  cases event with
  | write mb =>
    simp only [step] at stepped
    split at stepped <;> cases stepped
    · exact .dropped mb ‹_›
    · exact .write mb (Bool.eq_false_iff.mpr ‹_›)
  | close => cases stepped; exact .close
  | read =>
    simp only [step] at stepped
    split at stepped
    · rename_i reading
      split at stepped
      · rename_i empty
        split at stepped
        · cases stepped
          exact .stop reading (List.isEmpty_iff.mp empty) ‹_›
        · cases stepped
      · rename_i nonEmpty
        cases stepped
        exact .read reading (by simpa [List.isEmpty_iff] using nonEmpty)
    · cases stepped
  | acquire =>
    simp only [step] at stepped
    split at stepped
    · rename_i chunk waiting
      split at stepped
      · cases stepped
        exact .acquire chunk waiting ‹_›
      · cases stepped
    · cases stepped
  | built index =>
    obtain ⟨found, rfl⟩ := uploader_sends_eq stepped
    exact .sends index found
  | buildFailed index =>
    obtain ⟨found, room, rfl⟩ := uploader_returns_eq stepped
    exact .returns (.buildFailed index) index .building rfl found (by decide) room
  | doFailed index =>
    obtain ⟨found, room, rfl⟩ := uploader_returns_eq stepped
    exact .returns (.doFailed index) index .sending rfl found (by decide) room
  | responded index statusCode =>
    obtain ⟨found, room, rfl⟩ := uploader_returns_eq stepped
    exact .returns (.responded index statusCode) index .sending rfl found (by decide) room

theorem pipe_closed_step {event : Event}
    (stepped : step uploadUrl maxConcurrentUploads s event = some s') :
    s'.pipeClosed = (s.pipeClosed || event.closes) := by
  cases step_moves stepped with
  | write _ opened => simp [opened, Event.closes]
  | dropped _ closed => simp [closed]
  | returns event _ _ returning => simp [(Event.quiet_of_return returning).2]
  | close | stop | read | acquire | sends => simp [Event.closes]

/-- Uploader `k` was spawned with the `k`-th value of the counter for the `k`-th chunk read,
and the counter has counted every spawn. -/
structure Numbered (uploadUrl : String) (s : UploadState) : Prop where
  counter_eq : s.requestCounter = s.uploaders.length % 2 ^ 64
  urls_eq : s.uploaders.map Uploader.url =
    (List.range s.uploaders.length).map fun k => uploadUrl ++ formatInt (k % 2 ^ 64)
  chunks_read_eq : s.chunksRead = s.uploaders.map Uploader.chunk ++ s.producer.pending

theorem numbered_step {event : Event} (numbered : Numbered uploadUrl s)
    (stepped : step uploadUrl maxConcurrentUploads s event = some s') :
    Numbered uploadUrl s' := by
  obtain ⟨counterEq, urlsEq, chunksReadEq⟩ := numbered
  cases step_moves stepped with
  | write | dropped | close | sends | returns => exact ⟨counterEq, urlsEq, chunksReadEq⟩
  | stop reading | read reading =>
    exact ⟨counterEq, urlsEq, by simpa [reading, Producer.pending] using chunksReadEq⟩
  | acquire chunk waiting =>
    refine ⟨?_, ?_, ?_⟩
    · simp only [List.length_append, List.length_singleton, counterEq, Nat.mod_add_mod]
    · simp [urlsEq, List.range_succ, counterEq]
    · simpa [waiting, Producer.pending] using chunksReadEq

theorem numbered_of_reachable (reachable : Reachable uploadUrl maxConcurrentUploads s) :
    Numbered uploadUrl s := by
  induction reachable with
  | initial => exact ⟨rfl, rfl, rfl⟩
  | step event _ stepped numbered => exact numbered_step numbered stepped

theorem format_int_of_lt {k : Nat} (small : k < 2 ^ 63) : formatInt (k % 2 ^ 64) = toString k := by
  rw [Nat.mod_eq_of_lt (by omega), formatInt, if_pos small]

theorem reachable_run {events : List Event} (reachable : Reachable uploadUrl maxConcurrentUploads s)
    (ran : run uploadUrl maxConcurrentUploads s events = some s') :
    Reachable uploadUrl maxConcurrentUploads s' := by
  induction events generalizing s with
  | nil => exact Option.some.inj ran ▸ reachable
  | cons event events ih =>
    obtain ⟨next, stepped, rest⟩ := Option.bind_eq_some.mp ran
    exact ih (.step event reachable stepped) rest

/-- The `k`-th uploader spawned carries the `k`-th chunk read and posts it to `uploadUrl`
followed by `k` in decimal, under every interleaving, as long as fewer than `2^63` chunks were
read; every chunk read has its uploader but the one the producer may hold while it waits for a
permit. -/
theorem upload_sequence_numbers (reachable : Reachable uploadUrl maxConcurrentUploads s)
    (fewer : s.chunksRead.length < 2 ^ 63) :
    (∀ k : Nat, s.uploaders[k]? = (s.chunksRead.take s.uploaders.length)[k]?.map
      fun chunk => Uploader.mk (uploadUrl ++ toString k) chunk) ∧
    s.chunksRead.length = s.uploaders.length + s.producer.pending.length := by
  obtain ⟨-, urlsEq, chunksReadEq⟩ := numbered_of_reachable reachable
  have lengthEq : s.chunksRead.length = s.uploaders.length + s.producer.pending.length := by
    simp [chunksReadEq]
  refine ⟨fun k => ?_, lengthEq⟩
  rw [chunksReadEq, List.take_left' (by simp), List.getElem?_map]
  cases found : s.uploaders[k]? with
  | none => rfl
  | some u =>
    obtain ⟨inside, -⟩ := List.getElem?_eq_some_iff.mp found
    have url := congrArg (·[k]?) urlsEq
    simp only [List.getElem?_map, found, List.getElem?_range inside, Option.map_some',
      Option.some.injEq] at url
    rw [format_int_of_lt (by omega)] at url
    simp [← url]

theorem upload_sequence_numbers_two_uploaders :
    let s : UploadState := ⟨[], false, .reading, 2, 0,
      [⟨"/?session=0&seq=0", [⟨0, [1], 1, le_refl _⟩]⟩,
        ⟨"/?session=0&seq=1", [⟨0, [2], 1, le_refl _⟩]⟩],
      [.building, .building], [[⟨0, [1], 1, le_refl _⟩], [⟨0, [2], 1, le_refl _⟩]]⟩
    run "/?session=0&seq=" 2 (initial 2) [.write [⟨0, [1], 1, le_refl _⟩], .read, .acquire,
        .write [⟨0, [2], 1, le_refl _⟩], .read, .acquire] = some s ∧
      (∀ k : Nat, s.uploaders[k]? = (s.chunksRead.take s.uploaders.length)[k]?.map
        fun chunk => Uploader.mk ("/?session=0&seq=" ++ toString k) chunk) ∧
      s.chunksRead.length = s.uploaders.length + s.producer.pending.length :=
  ⟨rfl, @upload_sequence_numbers "/?session=0&seq=" 2 _
    (@reachable_run "/?session=0&seq=" 2 (initial 2) _ [.write [⟨0, [1], 1, le_refl _⟩], .read,
      .acquire, .write [⟨0, [2], 1, le_refl _⟩], .read, .acquire] .initial rfl) (by decide)⟩

theorem delivered_step {event : Event}
    (stepped : step uploadUrl maxConcurrentUploads s event = some s') :
    s'.chunksRead.flatten ++ s'.pipe =
      s.chunksRead.flatten ++ s.pipe ++ if s.pipeClosed then [] else event.written := by
  cases step_moves stepped with
  | write _ opened => simp [opened, Event.written]
  | dropped _ closed => simp [closed]
  | returns event _ _ returning => simp [(Event.quiet_of_return returning).1]
  | close | stop | read | acquire | sends => simp [Event.written]

theorem delivered_run {events : List Event}
    (ran : run uploadUrl maxConcurrentUploads s events = some s') :
    s'.chunksRead.flatten ++ s'.pipe =
      s.chunksRead.flatten ++ s.pipe ++
        if s.pipeClosed then [] else writtenBeforeClose events := by
  induction events generalizing s with
  | nil => simp [Option.some.inj ran, writtenBeforeClose]
  | cons event events ih =>
    obtain ⟨next, stepped, rest⟩ := Option.bind_eq_some.mp ran
    rw [ih rest, delivered_step stepped, pipe_closed_step stepped]
    cases s.pipeClosed
    · cases closing : event.closes
      · simp [writtenBeforeClose, closing]
      · simp [writtenBeforeClose, closing, Event.written_of_closes closing]
    · simp

/-- No buffer the caller writes before its `Close` is lost, duplicated or reordered, under every
interleaving, and every buffer it writes after the `Close` is dropped: the chunks of the
uploaders spawned so far, then the chunk the producer holds while it waits for a permit, then
what is still in the pipe, are the caller's writes before its first `Close`, in order. -/
theorem upload_delivers_writes (events : List Event)
    (ran : run uploadUrl maxConcurrentUploads (initial maxConcurrentUploads) events = some s) :
    (s.uploaders.map Uploader.chunk).flatten ++ s.producer.pending.flatten ++ s.pipe =
      writtenBeforeClose events := by
  have delivered := delivered_run ran
  rw [(numbered_of_reachable (reachable_run .initial ran)).chunks_read_eq,
    List.flatten_append] at delivered
  simpa [initial] using delivered

theorem upload_delivers_writes_drops_late_write :
    let s : UploadState := ⟨[], true, .reading, 1, 0,
      [⟨"/?session=0&seq=0", [⟨0, [1], 1, le_refl _⟩]⟩], [.building], [[⟨0, [1], 1, le_refl _⟩]]⟩
    run "/?session=0&seq=" 1 (initial 1) [.write [⟨0, [1], 1, le_refl _⟩], .read, .acquire, .close,
        .write [⟨0, [2], 1, le_refl _⟩]] = some s ∧
      (s.uploaders.map Uploader.chunk).flatten ++ s.producer.pending.flatten ++ s.pipe =
        writtenBeforeClose [.write [⟨0, [1], 1, le_refl _⟩], .read, .acquire, .close,
          .write [⟨0, [2], 1, le_refl _⟩]] :=
  ⟨rfl, @upload_delivers_writes "/?session=0&seq=" 1 _ _ rfl⟩

def StoppedDrained (s : UploadState) : Prop :=
  s.producer = .stopped → s.pipeClosed = true ∧ s.pipe = []

theorem stopped_drained_step {event : Event} (drained : StoppedDrained s)
    (stepped : step uploadUrl maxConcurrentUploads s event = some s') : StoppedDrained s' := by
  unfold StoppedDrained at *
  cases step_moves stepped with
  | write mb opened =>
    intro stopped
    rw [(drained stopped).1] at opened
    cases opened
  | close => exact fun stopped => ⟨rfl, (drained stopped).2⟩
  | stop _ empty closed => exact fun _ => ⟨closed, empty⟩
  | read | acquire => exact fun stopped => by cases stopped
  | dropped | sends | returns => exact drained

theorem stopped_drained_of_reachable (reachable : Reachable uploadUrl maxConcurrentUploads s) :
    StoppedDrained s := by
  induction reachable with
  | initial => exact fun stopped => by cases stopped
  | step event _ stepped drained => exact stopped_drained_step drained stepped

/-- Once the producer has left its loop, under any interleaving, the pipe is closed and every
buffer the caller wrote before its `Close` went, in order, to an uploader: none is left in the
pipe or with the producer, and none written after the `Close` was sent. -/
theorem upload_stopped_delivers_all (events : List Event)
    (ran : run uploadUrl maxConcurrentUploads (initial maxConcurrentUploads) events = some s)
    (stopped : s.producer = .stopped) :
    s.pipeClosed = true ∧
      (s.uploaders.map Uploader.chunk).flatten = writtenBeforeClose events := by
  have reachable := reachable_run .initial ran
  obtain ⟨closed, drained⟩ := stopped_drained_of_reachable reachable stopped
  have delivered := delivered_run ran
  rw [(numbered_of_reachable reachable).chunks_read_eq, List.flatten_append, stopped,
    drained] at delivered
  exact ⟨closed, by simpa [initial, Producer.pending] using delivered⟩

theorem upload_stopped_delivers_all_after_close :
    let s : UploadState := ⟨[], true, .stopped, 1, 0,
      [⟨"/?session=0&seq=0", [⟨0, [1], 1, le_refl _⟩]⟩], [.building], [[⟨0, [1], 1, le_refl _⟩]]⟩
    run "/?session=0&seq=" 1 (initial 1) [.write [⟨0, [1], 1, le_refl _⟩], .close,
        .write [⟨0, [2], 1, le_refl _⟩], .read, .acquire, .read] = some s ∧
      s.producer = .stopped ∧
      (s.pipeClosed = true ∧ (s.uploaders.map Uploader.chunk).flatten =
        writtenBeforeClose [.write [⟨0, [1], 1, le_refl _⟩], .close,
          .write [⟨0, [2], 1, le_refl _⟩], .read, .acquire, .read]) :=
  ⟨rfl, rfl, @upload_stopped_delivers_all "/?session=0&seq=" 1 _ _ rfl rfl⟩

section WindDown

variable (uploadUrl)

end WindDown

end Invariants

end XrayProxy.SplitHttp.Upload
