import XrayProxy.Buf.Buffer

/-!
# Addons and the seed check

`Addons` is the extension record a VLESS request and its response carry in their headers.
`PopulateSeed` switches the seed options on in a record, and `CheckSeed` compares the seed
configuration of a request with that of its response. The generated message types are not in
this slice: each sub-record keeps the fields the source reads, integer fields are naturals (a
superset of their protobuf ranges), and a `SeedMode` is its enum number. A Go byte slice is a
list, so a nil seed and an empty one are the same value, as they are to `bytes.Equal`.
-/

namespace XrayProxy.Vless

open XrayProxy.Buf

set_option autoImplicit false

structure SeedMode where
  number : Int
  deriving DecidableEq, Repr

structure PaddingConfig where
  regularMin : Nat
  regularMax : Nat
  longMin : Nat
  longMax : Nat
  deriving DecidableEq, Repr

structure DelayConfig where
  isRandom : Bool
  minMillis : Nat
  maxMillis : Nat
  deriving DecidableEq, Repr

structure SchedulerConfig where
  timeoutMillis : Nat
  deriving DecidableEq, Repr

/-- `Addons`; an absent sub-record is `none`, as a nil pointer is in Go. -/
structure Addons where
  flow : String
  seed : List Byte
  mode : SeedMode
  duration : String
  padding : Option PaddingConfig
  delay : Option DelayConfig
  scheduler : Option SchedulerConfig
  deriving DecidableEq, Repr

def Addons.empty : Addons := ⟨"", [], ⟨0⟩, "", none, none, none⟩

def xrv : String := "xtls-rprx-vision"

/-- `PopulateSeed`. The number of `SeedMode_PaddingPlusDelay` lies in the generated code, so it
is a parameter. -/
def populateSeed (paddingPlusDelay : SeedMode) (seed : String) (addons : Addons) : Addons :=
  if seed.length > 0 then
    { addons with
      seed := [1]
      mode := paddingPlusDelay
      duration := "0-8"
      padding := some ⟨0, 256, 900, 1400⟩
      delay := some ⟨true, 100, 500⟩
      scheduler := some ⟨600⟩ }
  else addons

inductive SeedError
  | seed (request response : List Byte)
  | mode (request response : SeedMode)
  | duration (request response : String)
  | padding
  | paddingPresence
  | delay
  | delayPresence
  | scheduler
  | schedulerPresence
  deriving DecidableEq, Repr

def SeedError.message : SeedError → String
  | .seed _ _ => "Seed bytes not match"
  | .mode _ _ => "Mode not match"
  | .duration _ _ => "Duration not match"
  | .padding => "Padding not match"
  | .paddingPresence => "Padding of one is nil but the other is not nil"
  | .delay => "Delay not match"
  | .delayPresence => "Delay of one is nil but the other is not nil"
  | .scheduler => "Scheduler not match"
  | .schedulerPresence => "Scheduler of one is nil but the other is not nil"

/-- The shape `CheckSeed` gives each sub-record: compare the fields when both records are
present, and fail when only one is. -/
def checkSubRecord {α : Type} (differ : α → α → Bool) (mismatch presence : SeedError) :
    Option α → Option α → Except SeedError Unit
  | some request, some response => if differ request response then .error mismatch else .ok ()
  | none, none => .ok ()
  | _, _ => .error presence

def paddingDiffers (request response : PaddingConfig) : Bool :=
  request.regularMin != response.regularMin || request.regularMax != response.regularMax ||
    request.longMin != response.longMin || request.longMax != response.longMax

def delayDiffers (request response : DelayConfig) : Bool :=
  request.isRandom != response.isRandom || request.minMillis != response.minMillis ||
    request.maxMillis != response.maxMillis

def schedulerDiffers (request response : SchedulerConfig) : Bool :=
  request.timeoutMillis != response.timeoutMillis

def checkPadding : Option PaddingConfig → Option PaddingConfig → Except SeedError Unit :=
  checkSubRecord paddingDiffers .padding .paddingPresence

def checkDelay : Option DelayConfig → Option DelayConfig → Except SeedError Unit :=
  checkSubRecord delayDiffers .delay .delayPresence

def checkScheduler : Option SchedulerConfig → Option SchedulerConfig → Except SeedError Unit :=
  checkSubRecord schedulerDiffers .scheduler .schedulerPresence

def checkSeed (requestAddons responseAddons : Addons) : Except SeedError Unit := do
  if requestAddons.seed ≠ responseAddons.seed then
    throw (.seed requestAddons.seed responseAddons.seed)
  if requestAddons.mode ≠ responseAddons.mode then
    throw (.mode requestAddons.mode responseAddons.mode)
  if requestAddons.duration ≠ responseAddons.duration then
    throw (.duration requestAddons.duration responseAddons.duration)
  checkPadding requestAddons.padding responseAddons.padding
  checkDelay requestAddons.delay responseAddons.delay
  checkScheduler requestAddons.scheduler responseAddons.scheduler

theorem padding_differs_eq_false {request response : PaddingConfig} :
    paddingDiffers request response = false ↔ request = response := by
  cases request
  cases response
  simp [paddingDiffers, and_assoc]

theorem delay_differs_eq_false {request response : DelayConfig} :
    delayDiffers request response = false ↔ request = response := by
  cases request
  cases response
  simp [delayDiffers, and_assoc]

theorem scheduler_differs_eq_false {request response : SchedulerConfig} :
    schedulerDiffers request response = false ↔ request = response := by
  cases request
  cases response
  simp [schedulerDiffers]

theorem check_sub_record_eq_ok {α : Type} {differ : α → α → Bool}
    (decides : ∀ {request response}, differ request response = false ↔ request = response)
    (mismatch presence : SeedError) (request response : Option α) :
    checkSubRecord differ mismatch presence request response = .ok () ↔ request = response := by
  cases request <;> cases response <;> simp [checkSubRecord, ← decides]

theorem bind_eq_ok {check rest : Except SeedError Unit} :
    (check >>= fun _ => rest) = .ok () ↔ check = .ok () ∧ rest = .ok () := by
  cases check <;> simp [bind, Except.bind]

theorem guard_eq_ok {failed : Prop} [Decidable failed] {error : SeedError}
    {rest : Except SeedError Unit} :
    (do if failed then throw error
        rest) = .ok () ↔ ¬failed ∧ rest = .ok () := by
  by_cases failed <;> simp [*, throw, throwThe, MonadExceptOf.throw, bind, Except.bind, pure,
    Except.pure]

theorem check_seed_eq_ok (request response : Addons) :
    checkSeed request response = .ok () ↔
      request.seed = response.seed ∧ request.mode = response.mode ∧
        request.duration = response.duration ∧ request.padding = response.padding ∧
        request.delay = response.delay ∧ request.scheduler = response.scheduler := by
  simp only [checkSeed, guard_eq_ok, bind_eq_ok, not_not, checkPadding, checkDelay,
    checkScheduler, check_sub_record_eq_ok padding_differs_eq_false,
    check_sub_record_eq_ok delay_differs_eq_false,
    check_sub_record_eq_ok scheduler_differs_eq_false]

def seedConfiguration (addons : Addons) :
    List Byte × SeedMode × String × Option PaddingConfig × Option DelayConfig ×
      Option SchedulerConfig :=
  (addons.seed, addons.mode, addons.duration, addons.padding, addons.delay, addons.scheduler)

theorem check_seed_eq_ok_iff (request response : Addons) :
    checkSeed request response = .ok () ↔
      seedConfiguration request = seedConfiguration response := by
  simp [check_seed_eq_ok, seedConfiguration]

/-- `CheckSeed` decides equality of seed configurations, so passing it is reflexive, symmetric
and transitive. -/
theorem check_seed_decides_seed_configuration :
    (∀ request response : Addons, checkSeed request response = .ok () ↔
      request.seed = response.seed ∧ request.mode = response.mode ∧
        request.duration = response.duration ∧ request.padding = response.padding ∧
        request.delay = response.delay ∧ request.scheduler = response.scheduler) ∧
    (∀ addons : Addons, checkSeed addons addons = .ok ()) ∧
    (∀ request response : Addons,
      checkSeed request response = .ok () ↔ checkSeed response request = .ok ()) ∧
    (∀ first second third : Addons, checkSeed first second = .ok () →
      checkSeed second third = .ok () → checkSeed first third = .ok ()) := by
  refine ⟨check_seed_eq_ok, fun addons => ?_, fun request response => ?_, ?_⟩
  · exact (check_seed_eq_ok_iff addons addons).mpr rfl
  · rw [check_seed_eq_ok_iff, check_seed_eq_ok_iff]
    exact eq_comm
  · simp only [check_seed_eq_ok_iff]
    exact fun _ _ _ => Eq.trans

theorem seed_configuration_populate_seed (paddingPlusDelay : SeedMode) {seed : String}
    (seeded : seed.length > 0) (addons : Addons) :
    seedConfiguration (populateSeed paddingPlusDelay seed addons) =
      ([1], paddingPlusDelay, "0-8", some ⟨0, 256, 900, 1400⟩, some ⟨true, 100, 500⟩,
        some ⟨600⟩) := by
  rw [populateSeed, if_pos seeded]
  rfl

/-- Two peers that both switch the seed on agree under `CheckSeed`, whatever their records held
before. -/
theorem check_seed_populate_seed (paddingPlusDelay : SeedMode) {requestSeed responseSeed : String}
    (requestOn : requestSeed.length > 0) (responseOn : responseSeed.length > 0)
    (request response : Addons) :
    checkSeed (populateSeed paddingPlusDelay requestSeed request)
      (populateSeed paddingPlusDelay responseSeed response) = .ok () := by
  rw [check_seed_eq_ok_iff, seed_configuration_populate_seed _ requestOn,
    seed_configuration_populate_seed _ responseOn]

theorem check_seed_populate_seed_different_records :
    checkSeed (populateSeed ⟨1⟩ "client" ⟨xrv, [], ⟨0⟩, "", none, none, none⟩)
      (populateSeed ⟨1⟩ "server" { Addons.empty with seed := [9, 9], duration := "5-10" }) =
        .ok () :=
  check_seed_populate_seed ⟨1⟩ (by decide) (by decide) _ _

end XrayProxy.Vless
