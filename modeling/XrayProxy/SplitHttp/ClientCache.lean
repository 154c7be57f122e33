import Mathlib.Data.List.Nodup

/-!
# The HTTP client cache

`getHTTPClient` holds `globalDialerMap`, the clients keyed by destination and stream settings,
behind a mutex, so each call is one atomic update of the map. Its lookup is commented out in the
source: every call builds a new client, with an HTTP/2 transport dialing TLS when the stream
settings carry TLS and a plain HTTP/1 transport otherwise, and stores it under its key. A client
is the allocation it is, counted from the first. The map's invariants, each key stored once and
every stored client allocated before, are fields of `Cache`, kept by every store.
-/

namespace XrayProxy.SplitHttp.ClientCache

set_option autoImplicit false

structure DialerConf where
  dest : String
  streamSettings : Nat
  deriving DecidableEq, Repr

inductive TlsClient
  | fingerprinted (fingerprint : String)
  | standard
  deriving DecidableEq, Repr

inductive Transport
  | http2 (tlsClient : TlsClient)
  | http1
  deriving DecidableEq, Repr

structure Client where
  serial : Nat
  transport : Transport
  deriving DecidableEq, Repr

/-- `globalDialerMap` and the number of clients allocated so far: each key is stored once, and
every stored client was allocated before. A nil map reads as an empty one, and `getHTTPClient`
makes it before it writes. -/
structure Cache where
  clients : List (DialerConf × Client)
  allocated : Nat
  keys_nodup : (clients.map Prod.fst).Nodup
  serials_lt : ∀ entry ∈ clients, entry.2.serial < allocated

def Cache.empty : Cache :=
  ⟨[], 0, List.nodup_nil, fun _ absent => absurd absent (List.not_mem_nil _)⟩

def transportFor (getFingerprint : String → Bool) : Option String → Transport
  | some fingerprint =>
    .http2 (if getFingerprint fingerprint then .fingerprinted fingerprint else .standard)
  | none => .http1

def Cache.store (cache : Cache) (key : DialerConf) (transport : Transport) : Cache where
  clients := (key, ⟨cache.allocated, transport⟩) :: cache.clients.filter (·.1 != key)
  allocated := cache.allocated + 1
  keys_nodup := by
    refine List.nodup_cons.mpr ⟨by simp, ?_⟩
    exact cache.keys_nodup.sublist ((List.filter_sublist _).map _)
  serials_lt := by
    rintro entry (_ | ⟨_, member⟩)
    · exact Nat.lt_succ_self _
    · exact Nat.lt_succ_of_lt (cache.serials_lt entry (List.mem_of_mem_filter member))

/-- `getHTTPClient(ctx, dest, streamSettings)`: a new client, stored under its key. -/
def getHTTPClient (getFingerprint : String → Bool) (cache : Cache) (key : DialerConf)
    (tlsFingerprint : Option String) : Client × Cache :=
  let transport := transportFor getFingerprint tlsFingerprint
  (⟨cache.allocated, transport⟩, cache.store key transport)

end XrayProxy.SplitHttp.ClientCache
