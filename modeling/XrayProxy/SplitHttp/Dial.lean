import XrayProxy.SplitHttp.Upload

/-!
# SplitHTTP `Dial`

`Dial` builds the base URL, issues the download GET, requires status 200, creates the upload
pipe and starts the upload producer on it, then reads the two-byte "ok" header off the
response body and returns a connection whose writer owns the pipe and whose reader is the body.
What the calls outside the slice return (the request constructor, the HTTP client, the session
UUID) is an input. Besides its result, `Dial` leaves behind what it sent, started or opened: the
download GET, the producer goroutine with the URL it numbers its POSTs after and its pipe, and
the response body.
-/

namespace XrayProxy.SplitHttp.Dial

open XrayProxy.Buf XrayProxy.SplitHttp.Upload

set_option autoImplicit false

structure Config where
  host : String
  normalizedPath : String
  normalizedMaxConcurrentUploads : Nat

structure Response where
  statusCode : Nat
  status : String
  body : List Byte

/-- What the calls outside the slice return to `Dial`: whether the stream settings carry TLS,
the session UUID, the error of `http.NewRequestWithContext` if any, and `httpClient.Do`. -/
structure Environment where
  tls : Bool
  sessionId : String
  requestError : Option String
  download : Except String Response

inductive DialError
  | request (cause : String)
  | transport (cause : String)
  | status (status : String)
  | initialResponse
  deriving DecidableEq, Repr

def DialError.message : DialError → String
  | .request cause => cause
  | .transport cause => cause
  | .status line => "invalid status code on download:" ++ line
  | .initialResponse => "failed to read initial response"

/-- The connection's reader: what is left of the body. Its writer owns the upload pipe, which
`Started` holds with the producer reading it. -/
structure SplitConn where
  reader : List Byte

/-- What `Dial` sent, started or opened: the download GET by its URL, once built; the upload
producer, once launched, with the URL it numbers its POSTs after and the state of the upload
subsystem; and whether a download body is open. -/
structure Started where
  download : Option String
  upload : Option (String × UploadState)
  bodyOpen : Bool

def requestUrl (config : Config) (destNetAddr : String) (tls : Bool) : String :=
  (if tls then "https" else "http") ++ "://" ++
    (if config.host = "" then destNetAddr else config.host) ++ config.normalizedPath

def dial (config : Config) (destNetAddr : String) (env : Environment) :
    Except DialError SplitConn × Started :=
  let base := requestUrl config destNetAddr env.tls
  match env.requestError with
  | some cause => (.error (.request cause), ⟨none, none, false⟩)
  | none =>
    let getUrl := base ++ "?session=" ++ env.sessionId
    match env.download with
    | .error cause => (.error (.transport cause), ⟨some getUrl, none, false⟩)
    | .ok downResponse =>
      if downResponse.statusCode ≠ 200 then
        (.error (.status downResponse.status), ⟨some getUrl, none, true⟩)
      else
        let uploadUrl := base ++ "?session=" ++ env.sessionId ++ "&seq="
        let started : Started :=
          ⟨some getUrl, some (uploadUrl, initial config.normalizedMaxConcurrentUploads), true⟩
        match readFull 2 downResponse.body with
        | (.error _, _) => (.error .initialResponse, started)
        | (.ok _, rest) => (.ok ⟨rest⟩, started)

section Outcomes

variable (config : Config) (destNetAddr : String) (env : Environment) (downResponse : Response)

theorem dial_bad_status (built : env.requestError = none)
    (answered : env.download = .ok downResponse) (notOk : downResponse.statusCode ≠ 200) :
    dial config destNetAddr env =
      (.error (.status downResponse.status),
        ⟨some (requestUrl config destNetAddr env.tls ++ "?session=" ++ env.sessionId), none,
          true⟩) := by
  simp [dial, built, answered, notOk]

theorem dial_short_body (built : env.requestError = none)
    (answered : env.download = .ok downResponse) (accepted : downResponse.statusCode = 200)
    (short : downResponse.body.length < 2) :
    dial config destNetAddr env =
      (.error .initialResponse,
        ⟨some (requestUrl config destNetAddr env.tls ++ "?session=" ++ env.sessionId),
          some (requestUrl config destNetAddr env.tls ++ "?session=" ++ env.sessionId ++ "&seq=",
            initial config.normalizedMaxConcurrentUploads), true⟩) := by
  obtain ⟨cause, read⟩ := read_full_short short
  simp [dial, built, answered, accepted, read]

theorem dial_ok (built : env.requestError = none)
    (answered : env.download = .ok downResponse) (accepted : downResponse.statusCode = 200)
    (long : 2 ≤ downResponse.body.length) :
    dial config destNetAddr env =
      (.ok ⟨downResponse.body.drop 2⟩,
        ⟨some (requestUrl config destNetAddr env.tls ++ "?session=" ++ env.sessionId),
          some (requestUrl config destNetAddr env.tls ++ "?session=" ++ env.sessionId ++ "&seq=",
            initial config.normalizedMaxConcurrentUploads), true⟩) := by
  have read : readFull 2 downResponse.body =
      (.ok (downResponse.body.take 2), downResponse.body.drop 2) := if_pos long
  simp [dial, built, answered, accepted, read]

end Outcomes

example :
    dial ⟨"", "/", 1⟩ "example.com:80" ⟨false, "0", none, .ok ⟨200, "200 OK", [0x6f, 0x6b, 0x2a]⟩⟩ =
      (.ok ⟨[0x2a]⟩, ⟨some "http://example.com:80/?session=0",
        some ("http://example.com:80/?session=0&seq=", initial 1), true⟩) := rfl

theorem dial_eq_ok_iff (config : Config) (destNetAddr : String) (env : Environment)
    (conn : SplitConn) (started : Started) :
    dial config destNetAddr env = (.ok conn, started) ↔
      ∃ downResponse, env.requestError = none ∧ env.download = .ok downResponse ∧
        downResponse.statusCode = 200 ∧ 2 ≤ downResponse.body.length ∧
        conn = ⟨downResponse.body.drop 2⟩ ∧
        started = ⟨some (requestUrl config destNetAddr env.tls ++ "?session=" ++ env.sessionId),
          some (requestUrl config destNetAddr env.tls ++ "?session=" ++ env.sessionId ++ "&seq=",
            initial config.normalizedMaxConcurrentUploads), true⟩ := by
  constructor
  · intro dialed
    cases built : env.requestError with
    | some cause => simp [dial, built] at dialed
    | none =>
      cases answered : env.download with
      | error cause => simp [dial, built, answered] at dialed
      | ok downResponse =>
        have accepted : downResponse.statusCode = 200 := by
          by_contra notOk
          rw [dial_bad_status config destNetAddr env downResponse built answered notOk] at dialed
          cases dialed
        have long : 2 ≤ downResponse.body.length := by
          by_contra short
          rw [dial_short_body config destNetAddr env downResponse built answered accepted
            (by omega)] at dialed
          cases dialed
        rw [dial_ok config destNetAddr env downResponse built answered accepted long,
          Prod.mk.injEq, Except.ok.injEq] at dialed
        exact ⟨downResponse, rfl, rfl, accepted, long, dialed.1.symm, dialed.2.symm⟩
  · rintro ⟨downResponse, built, answered, accepted, long, rfl, rfl⟩
    exact dial_ok config destNetAddr env downResponse built answered accepted long

/-- Every POST of a successful `Dial` belongs to the session of its download: the GET went to
the base URL with the session UUID, the producer was started at the initial state of the upload
subsystem, and in every state that subsystem reaches under any interleaving, the `k`-th POST
goes to the GET's URL followed by `&seq=` and the counter's `k`-th value. -/
theorem dial_uploads_pair_with_download (config : Config) (destNetAddr : String)
    (env : Environment) (conn : SplitConn) (started : Started)
    (dialed : dial config destNetAddr env = (.ok conn, started)) :
    ∃ getUrl uploadUrl, started.download = some getUrl ∧
      getUrl = requestUrl config destNetAddr env.tls ++ "?session=" ++ env.sessionId ∧
      started.upload = some (uploadUrl, initial config.normalizedMaxConcurrentUploads) ∧
      ∀ s, Reachable uploadUrl config.normalizedMaxConcurrentUploads s →
        s.uploaders.map Uploader.url = (List.range s.uploaders.length).map fun k =>
          getUrl ++ "&seq=" ++ formatInt (k % 2 ^ 64) := by
  obtain ⟨-, -, -, -, -, -, rfl⟩ := (dial_eq_ok_iff config destNetAddr env conn started).mp dialed
  exact ⟨_, _, rfl, rfl, rfl, fun s reachable => (numbered_of_reachable reachable).urls_eq⟩

theorem dial_uploads_pair_with_download_two_uploads :
    dial ⟨"", "/", 2⟩ "example.com:80" ⟨false, "0", none, .ok ⟨200, "200 OK", [0x6f, 0x6b]⟩⟩ =
        (.ok ⟨[]⟩, ⟨some "http://example.com:80/?session=0",
          some ("http://example.com:80/?session=0&seq=", initial 2), true⟩) ∧
      ∃ getUrl uploadUrl, some "http://example.com:80/?session=0" = some getUrl ∧
        getUrl = requestUrl ⟨"", "/", 2⟩ "example.com:80" false ++ "?session=" ++ "0" ∧
        some ("http://example.com:80/?session=0&seq=", initial 2) = some (uploadUrl, initial 2) ∧
        ∀ s, Reachable uploadUrl 2 s →
          s.uploaders.map Uploader.url = (List.range s.uploaders.length).map fun k =>
            getUrl ++ "&seq=" ++ formatInt (k % 2 ^ 64) :=
  ⟨rfl, dial_uploads_pair_with_download ⟨"", "/", 2⟩ "example.com:80"
    ⟨false, "0", none, .ok ⟨200, "200 OK", [0x6f, 0x6b]⟩⟩ _ _ rfl⟩

theorem initial_blocked_without_caller (uploadUrl : String) (maxConcurrentUploads : Nat)
    (event : Event) (notCaller : event.byCaller = false) :
    step uploadUrl maxConcurrentUploads (initial maxConcurrentUploads) event = none := by
  cases event <;> first | rfl | cases notCaller

/-- A server that accepts the download and sends a single byte: `Dial` returns its error with the
producer already started on a pipe no one can close, stuck for good, and the body open. -/
theorem dial_one_byte_body_leaks_producer :
    dial ⟨"", "/", 1⟩ "example.com:80" ⟨false, "0", none, .ok ⟨200, "200 OK", [0x6f]⟩⟩ =
      (.error .initialResponse, ⟨some "http://example.com:80/?session=0",
        some ("http://example.com:80/?session=0&seq=", initial 1), true⟩) ∧
    ∀ event : Event, event.byCaller = false →
      step "http://example.com:80/?session=0&seq=" 1 (initial 1) event = none :=
  ⟨dial_short_body _ _ _ _ rfl rfl rfl (by decide), initial_blocked_without_caller _ _⟩

end XrayProxy.SplitHttp.Dial
