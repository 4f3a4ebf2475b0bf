import NeoFS.Go.Basic

set_option autoImplicit false

/- NetworkInfo of netmap/network_info.go: the network's scalar settings and its list of named
   parameters. fromProtoMessage checks the list (distinct names, non-empty values, well formed
   system parameters); the typed getters decode system parameters and panic where they are
   malformed, relying on every value having been checked on decoding or written by a typed
   setter. float64 is a type `F` with the operations the code calls on it. -/
namespace NeoFS.Netmap

open Go

/-- The float64 operations the code uses: math.Float64frombits, math.Float64bits, the order, the
constants 0 and 1, and the %.2f formatting of messages. -/
structure Float64Ops (F : Type) where
  frombits : UInt64 → F
  bits : F → UInt64
  lt : F → F → Bool
  zero : F
  one : F
  format : F → String

def Float64Ops.outOfRange {F : Type} (ops : Float64Ops F) (alpha : F) : Bool :=
  ops.lt alpha ops.zero || ops.lt ops.one alpha

structure NetworkInfo where
  curEpoch : UInt64
  netMagic : UInt64
  msPerBlock : Int64
  prms : List (String × List UInt8)

def NetworkInfo.zero : NetworkInfo := ⟨0, 0, 0, []⟩

structure ParameterMessage where
  key : String
  value : List UInt8

structure NetworkConfigMessage where
  parameters : List (Option ParameterMessage)

structure NetworkInfoMessage where
  currentEpoch : UInt64
  magicNumber : UInt64
  msPerBlock : Int64
  networkConfig : Option NetworkConfigMessage

def configAuditFee : String := "AuditFee"
def configStoragePrice : String := "BasicIncomeRate"
def configContainerFee : String := "ContainerFee"
def configNamedContainerFee : String := "ContainerAliasFee"
def configEigenTrustAlpha : String := "EigenTrustAlpha"
def configEigenTrustNumberOfIterations : String := "EigenTrustIterations"
def configEpochDuration : String := "EpochDuration"
def configIRCandidateFee : String := "InnerRingCandidateFee"
def configMaxObjSize : String := "MaxObjectSize"
def configWithdrawalFee : String := "WithdrawFee"
def configHomomorphicHashingDisabled : String := "HomomorphicHashingDisabled"
def configMaintenanceModeAllowed : String := "MaintenanceModeAllowed"

-- The system parameters held as uint64 and as contract bools.
def uint64ConfigNames : List String :=
  [configAuditFee, configStoragePrice, configContainerFee, configNamedContainerFee, configEigenTrustNumberOfIterations,
    configEpochDuration, configIRCandidateFee, configMaxObjSize, configWithdrawalFee]

def boolConfigNames : List String := [configHomomorphicHashingDisabled, configMaintenanceModeAllowed]

section Values

-- `decodeConfigValueUint64`: at most 8 bytes, little endian.
def decodeConfigValueUint64 (val : List UInt8) : Except String UInt64 :=
  if val.length > 8 then .error ("invalid uint64 parameter length " ++ toString val.length)
  else .ok (val.foldr (fun v res => res * 256 + v.toUInt64) 0)

-- `stackitem.NewByteArray(val).TryBool()` of neo-go: at most 32 bytes, true when one is not zero.
def tryBool (val : List UInt8) : Except String Bool :=
  if val.length > 32 then .error "too big: integer" else .ok (val.any (· ≠ 0))

def decodeConfigValueBool (val : List UInt8) : Except String Bool :=
  match tryBool val with
  | .error err => .error ("invalid bool parameter contract format " ++ err)
  | .ok res => .ok res

-- `binary.LittleEndian.PutUint64` into 8 bytes.
def putUint64 (num : UInt64) : List UInt8 :=
  (List.range 8).map fun i => (num >>> (8 * i).toUInt64).toUInt8

def boolBytes (val : Bool) : List UInt8 := if val then [1] else [0]

end Values

/-- The check fromProtoMessage makes of one parameter, after its name was found new: the error it
returns, if any. The messages quote the name as %q does for printable names. -/
def parameterError {F : Type} (ops : Float64Ops F) (name : String) (value : List UInt8) : Option String :=
  let invalid := fun (err : String) => "invalid " ++ name ++ " parameter: " ++ err
  if name = configEigenTrustAlpha then
    match decodeConfigValueUint64 value with
    | .error err => some (invalid err)
    | .ok num =>
        if ops.outOfRange (ops.frombits num) then
          some (invalid ("EigenTrust alpha value " ++ ops.format (ops.frombits num) ++ " is out of range [0, 1]"))
        else none
  else if name ∈ uint64ConfigNames then
    match decodeConfigValueUint64 value with
    | .error err => some (invalid err)
    | .ok _ => none
  else if name ∈ boolConfigNames then
    match decodeConfigValueBool value with
    | .error err => some (invalid err)
    | .ok _ => none
  else if value = [] then some ("empty \"" ++ name ++ "\" parameter value")
  else none

namespace NetworkInfo

variable {F : Type}

-- The loop of fromProtoMessage over the parameters, `seen` holding the names before the i-th.
def fromProtoMessageLoop (ops : Float64Ops F) (seen : List String) (i : Nat) :
    List (Option ParameterMessage) → Except String (List (String × List UInt8))
  | [] => .ok []
  | none :: _ => .error ("nil parameter #" ++ toString i)
  | some prm :: prms =>
      if prm.key ∈ seen then .error ("duplicated parameter name: " ++ prm.key)
      else
        match parameterError ops prm.key prm.value with
        | some err => .error err
        | none => (fromProtoMessageLoop ops (prm.key :: seen) (i + 1) prms).map ((prm.key, prm.value) :: ·)

-- `fromProtoMessage` into the receiver x: without a network config it keeps x's parameters.
def fromProtoMessage (ops : Float64Ops F) (x : NetworkInfo) (m : NetworkInfoMessage) (checkFieldPresence : Bool) :
    Except String NetworkInfo :=
  match m.networkConfig with
  | none =>
      if checkFieldPresence then .error "missing network config"
      else .ok { x with curEpoch := m.currentEpoch, netMagic := m.magicNumber, msPerBlock := m.msPerBlock }
  | some c =>
      if checkFieldPresence && c.parameters.isEmpty then .error "missing network parameters"
      else
        (fromProtoMessageLoop ops [] 0 c.parameters).map fun prms =>
          ⟨m.currentEpoch, m.magicNumber, m.msPerBlock, prms⟩

def protoMessage (x : NetworkInfo) : NetworkInfoMessage :=
  { currentEpoch := x.curEpoch, magicNumber := x.netMagic, msPerBlock := x.msPerBlock,
    networkConfig := if x.prms.isEmpty then none else some ⟨x.prms.map fun prm => some ⟨prm.1, prm.2⟩⟩ }

-- The loop of setConfig: the first parameter of the name takes the value, or the pair is appended.
def setPrm (name : String) (val : List UInt8) : List (String × List UInt8) → List (String × List UInt8)
  | [] => [(name, val)]
  | prm :: prms => if prm.1 = name then (prm.1, val) :: prms else prm :: setPrm name val prms

def setConfig (x : NetworkInfo) (name : String) (val : List UInt8) : NetworkInfo :=
  { x with prms := setPrm name val x.prms }

def configValue (x : NetworkInfo) (name : String) : Option (List UInt8) :=
  (x.prms.find? (·.1 = name)).map (·.2)

def setCurrentEpoch (x : NetworkInfo) (epoch : UInt64) : NetworkInfo := { x with curEpoch := epoch }
def setMagicNumber (x : NetworkInfo) (epoch : UInt64) : NetworkInfo := { x with netMagic := epoch }
def setMsPerBlock (x : NetworkInfo) (v : Int64) : NetworkInfo := { x with msPerBlock := v }

def setRawNetworkParameter (x : NetworkInfo) (name : String) (value : List UInt8) : NetworkInfo :=
  x.setConfig name value

def rawNetworkParameter (x : NetworkInfo) (name : String) : Option (List UInt8) := x.configValue name

def setConfigUint64 (x : NetworkInfo) (name : String) (num : UInt64) : NetworkInfo :=
  x.setConfig name (putUint64 num)

def setConfigBool (x : NetworkInfo) (name : String) (val : Bool) : NetworkInfo :=
  x.setConfig name (boolBytes val)

-- A missing parameter reads as zero; a malformed one makes the getter panic.
def configUint64 (x : NetworkInfo) (name : String) : Except (Failure String) UInt64 :=
  match x.configValue name with
  | none => .ok 0
  | some val =>
      match decodeConfigValueUint64 val with
      | .ok res => .ok res
      | .error err => .error (.panic err)

def configBool (x : NetworkInfo) (name : String) : Except (Failure String) Bool :=
  match x.configValue name with
  | none => .ok false
  | some val =>
      match decodeConfigValueBool val with
      | .ok res => .ok res
      | .error err => .error (.panic err)

def setAuditFee (x : NetworkInfo) (fee : UInt64) : NetworkInfo := x.setConfigUint64 configAuditFee fee
def auditFee (x : NetworkInfo) : Except (Failure String) UInt64 := x.configUint64 configAuditFee
def setStoragePrice (x : NetworkInfo) (price : UInt64) : NetworkInfo := x.setConfigUint64 configStoragePrice price
def storagePrice (x : NetworkInfo) : Except (Failure String) UInt64 := x.configUint64 configStoragePrice
def setContainerFee (x : NetworkInfo) (fee : UInt64) : NetworkInfo := x.setConfigUint64 configContainerFee fee
def containerFee (x : NetworkInfo) : Except (Failure String) UInt64 := x.configUint64 configContainerFee
def setNamedContainerFee (x : NetworkInfo) (fee : UInt64) : NetworkInfo :=
  x.setConfigUint64 configNamedContainerFee fee
def namedContainerFee (x : NetworkInfo) : Except (Failure String) UInt64 := x.configUint64 configNamedContainerFee

def setEigenTrustAlpha (ops : Float64Ops F) (x : NetworkInfo) (alpha : F) : Except (Failure String) NetworkInfo :=
  if ops.outOfRange alpha then
    .error (.panic ("EigenTrust alpha parameter MUST be in range [0, 1], got " ++ ops.format alpha))
  else .ok (x.setConfigUint64 configEigenTrustAlpha (ops.bits alpha))

def eigenTrustAlpha (ops : Float64Ops F) (x : NetworkInfo) : Except (Failure String) F := do
  let alpha := ops.frombits (← x.configUint64 configEigenTrustAlpha)
  if ops.outOfRange alpha then
    .error (.panic ("unexpected invalid " ++ configEigenTrustAlpha ++ " parameter value " ++ ops.format alpha))
  else .ok alpha

def setNumberOfEigenTrustIterations (x : NetworkInfo) (num : UInt64) : NetworkInfo :=
  x.setConfigUint64 configEigenTrustNumberOfIterations num
def numberOfEigenTrustIterations (x : NetworkInfo) : Except (Failure String) UInt64 :=
  x.configUint64 configEigenTrustNumberOfIterations
def setEpochDuration (x : NetworkInfo) (blocks : UInt64) : NetworkInfo := x.setConfigUint64 configEpochDuration blocks
def epochDuration (x : NetworkInfo) : Except (Failure String) UInt64 := x.configUint64 configEpochDuration
def setIRCandidateFee (x : NetworkInfo) (fee : UInt64) : NetworkInfo := x.setConfigUint64 configIRCandidateFee fee
def iRCandidateFee (x : NetworkInfo) : Except (Failure String) UInt64 := x.configUint64 configIRCandidateFee
def setMaxObjectSize (x : NetworkInfo) (sz : UInt64) : NetworkInfo := x.setConfigUint64 configMaxObjSize sz
def maxObjectSize (x : NetworkInfo) : Except (Failure String) UInt64 := x.configUint64 configMaxObjSize
def setWithdrawalFee (x : NetworkInfo) (sz : UInt64) : NetworkInfo := x.setConfigUint64 configWithdrawalFee sz
def withdrawalFee (x : NetworkInfo) : Except (Failure String) UInt64 := x.configUint64 configWithdrawalFee
def disableHomomorphicHashing (x : NetworkInfo) : NetworkInfo := x.setConfigBool configHomomorphicHashingDisabled true
def homomorphicHashingDisabled (x : NetworkInfo) : Except (Failure String) Bool :=
  x.configBool configHomomorphicHashingDisabled
def allowMaintenanceMode (x : NetworkInfo) : NetworkInfo := x.setConfigBool configMaintenanceModeAllowed true
def maintenanceModeAllowed (x : NetworkInfo) : Except (Failure String) Bool := x.configBool configMaintenanceModeAllowed

-- The mutations of a NetworkInfo: its public setters and decodings into it. A failed decoding
-- returns an error and leaves the receiver as it was; a setter's panic ends the run.
inductive Mutation (F : Type) where
  | setCurrentEpoch (epoch : UInt64)
  | setMagicNumber (magic : UInt64)
  | setMsPerBlock (v : Int64)
  | setRawNetworkParameter (name : String) (value : List UInt8)
  | setAuditFee (fee : UInt64)
  | setStoragePrice (price : UInt64)
  | setContainerFee (fee : UInt64)
  | setNamedContainerFee (fee : UInt64)
  | setEigenTrustAlpha (alpha : F)
  | setNumberOfEigenTrustIterations (num : UInt64)
  | setEpochDuration (blocks : UInt64)
  | setIRCandidateFee (fee : UInt64)
  | setMaxObjectSize (sz : UInt64)
  | setWithdrawalFee (sz : UInt64)
  | disableHomomorphicHashing
  | allowMaintenanceMode
  | fromProtoMessage (m : NetworkInfoMessage)
  | unmarshal (m : NetworkInfoMessage)

def Mutation.apply (ops : Float64Ops F) (x : NetworkInfo) : Mutation F → Except (Failure String) NetworkInfo
  | .setCurrentEpoch epoch => .ok (x.setCurrentEpoch epoch)
  | .setMagicNumber magic => .ok (x.setMagicNumber magic)
  | .setMsPerBlock v => .ok (x.setMsPerBlock v)
  | .setRawNetworkParameter name value => .ok (x.setRawNetworkParameter name value)
  | .setAuditFee fee => .ok (x.setAuditFee fee)
  | .setStoragePrice price => .ok (x.setStoragePrice price)
  | .setContainerFee fee => .ok (x.setContainerFee fee)
  | .setNamedContainerFee fee => .ok (x.setNamedContainerFee fee)
  | .setEigenTrustAlpha alpha => x.setEigenTrustAlpha ops alpha
  | .setNumberOfEigenTrustIterations num => .ok (x.setNumberOfEigenTrustIterations num)
  | .setEpochDuration blocks => .ok (x.setEpochDuration blocks)
  | .setIRCandidateFee fee => .ok (x.setIRCandidateFee fee)
  | .setMaxObjectSize sz => .ok (x.setMaxObjectSize sz)
  | .setWithdrawalFee sz => .ok (x.setWithdrawalFee sz)
  | .disableHomomorphicHashing => .ok x.disableHomomorphicHashing
  | .allowMaintenanceMode => .ok x.allowMaintenanceMode
  | .fromProtoMessage m =>
      match x.fromProtoMessage ops m true with
      | .ok y => .ok y
      | .error _ => .ok x
  | .unmarshal m =>
      match x.fromProtoMessage ops m false with
      | .ok y => .ok y
      | .error _ => .ok x

def run (ops : Float64Ops F) : NetworkInfo → List (Mutation F) → Except (Failure String) NetworkInfo
  | x, [] => .ok x
  | x, mutation :: mutations =>
      match mutation.apply ops x with
      | .ok y => run ops y mutations
      | .error err => .error err

end NetworkInfo

section Validity

variable {F : Type}

/-- The IEEE facts the code relies on: decoding the bits of a float gives it back, and the float
of all-zero bits, 0.0, lies in [0, 1]. -/
structure Float64Ops.Lawful (ops : Float64Ops F) : Prop where
  frombits_bits : ∀ alpha, ops.frombits (ops.bits alpha) = alpha
  zero_in_range : ops.outOfRange (ops.frombits 0) = false

structure Valid (ops : Float64Ops F) (prms : List (String × List UInt8)) : Prop where
  nodup : (prms.map (·.1)).Nodup
  wellFormed : ∀ prm ∈ prms, parameterError ops prm.1 prm.2 = none

theorem valid_nil (ops : Float64Ops F) : Valid ops [] := ⟨List.nodup_nil, fun _ none => nomatch none⟩

theorem decode_put_uint64 (num : UInt64) : decodeConfigValueUint64 (putUint64 num) = .ok num := by
  have length : (putUint64 num).length = 8 := by simp [putUint64]
  rw [decodeConfigValueUint64, if_neg (by omega)]
  congr 1
  apply UInt64.toNat_inj.mp
  have fits := num.toNat_lt
  -- the eight bytes are the base-256 digits of the number
  simp [putUint64, List.range_succ, UInt64.toNat_add, UInt64.toNat_mul, UInt64.toNat_shiftRight]
  omega

theorem alpha_not_uint64 : configEigenTrustAlpha ∉ uint64ConfigNames := by decide

theorem alpha_not_bool : configEigenTrustAlpha ∉ boolConfigNames := by decide

theorem bool_not_uint64 {name : String} (bool : name ∈ boolConfigNames) : name ∉ uint64ConfigNames := by
  simp only [boolConfigNames, List.mem_cons, List.not_mem_nil, or_false] at bool
  rcases bool with rfl | rfl <;> decide

theorem parameter_error_put_uint64 (ops : Float64Ops F) {name : String} (uint64 : name ∈ uint64ConfigNames)
    (num : UInt64) : parameterError ops name (putUint64 num) = none := by
  have notAlpha : name ≠ configEigenTrustAlpha := fun same => alpha_not_uint64 (same ▸ uint64)
  simp only [parameterError, if_neg notAlpha, if_pos uint64, decode_put_uint64]

theorem parameter_error_alpha {ops : Float64Ops F} (lawful : ops.Lawful) {alpha : F}
    (inRange : ops.outOfRange alpha = false) :
    parameterError ops configEigenTrustAlpha (putUint64 (ops.bits alpha)) = none := by
  simp only [parameterError, decode_put_uint64, lawful.frombits_bits, inRange, Bool.false_eq_true, if_false,
    if_true]

theorem parameter_error_bool_bytes (ops : Float64Ops F) {name : String} (bool : name ∈ boolConfigNames) (val : Bool) :
    parameterError ops name (boolBytes val) = none := by
  have notAlpha : name ≠ configEigenTrustAlpha := fun same => alpha_not_bool (same ▸ bool)
  have decoded : decodeConfigValueBool (boolBytes val) = .ok val := by
    cases val <;> rfl
  simp only [parameterError, if_neg notAlpha, if_neg (bool_not_uint64 bool), if_pos bool, decoded]

open NetworkInfo

theorem names_set_prm (name : String) (val : List UInt8) (prms : List (String × List UInt8)) :
    (setPrm name val prms).map (·.1) =
      if name ∈ prms.map (·.1) then prms.map (·.1) else prms.map (·.1) ++ [name] := by
  induction prms with
  | nil => simp [setPrm]
  | cons prm prms ih =>
      by_cases same : prm.1 = name
      · simp [setPrm, same]
      · have other : name ≠ prm.1 := fun eq => same eq.symm
        simp only [setPrm, if_neg same, List.map_cons, ih, List.mem_cons, other, false_or]
        split_ifs <;> rfl

theorem mem_set_prm {name : String} {val : List UInt8} {prms : List (String × List UInt8)}
    {prm : String × List UInt8} (mem : prm ∈ setPrm name val prms) : prm = (name, val) ∨ prm ∈ prms := by
  induction prms with
  | nil => simpa [setPrm] using mem
  | cons head prms ih =>
      by_cases same : head.1 = name
      · rw [setPrm, if_pos same, List.mem_cons] at mem
        rcases mem with rfl | mem
        · exact .inl (by rw [same])
        · exact .inr (List.mem_cons_of_mem _ mem)
      · rw [setPrm, if_neg same, List.mem_cons] at mem
        rcases mem with rfl | mem
        · exact .inr List.mem_cons_self
        · exact (ih mem).imp_right (List.mem_cons_of_mem _)

theorem Valid.setConfig {ops : Float64Ops F} {x : NetworkInfo} (valid : Valid ops x.prms) {name : String}
    {val : List UInt8} (checked : parameterError ops name val = none) : Valid ops (x.setConfig name val).prms := by
  constructor
  · show ((setPrm name val x.prms).map (·.1)).Nodup
    rw [names_set_prm]
    split_ifs with known
    · exact valid.nodup
    · exact valid.nodup.append (List.nodup_singleton name) (by simpa using known)
  · intro prm mem
    rcases mem_set_prm mem with rfl | old
    · exact checked
    · exact valid.wellFormed prm old

theorem config_value_mem {x : NetworkInfo} {name : String} {val : List UInt8} (found : x.configValue name = some val) :
    (name, val) ∈ x.prms := by
  rw [configValue, Option.map_eq_some_iff] at found
  obtain ⟨prm, find, rfl⟩ := found
  have named : prm.1 = name := by simpa using List.find?_some find
  rw [← named]
  exact List.mem_of_find?_eq_some find

theorem Valid.tail {ops : Float64Ops F} {prm : String × List UInt8} {prms : List (String × List UInt8)}
    (valid : Valid ops (prm :: prms)) : Valid ops prms :=
  ⟨(List.nodup_cons.mp valid.nodup).2, fun other mem => valid.wellFormed other (List.mem_cons_of_mem _ mem)⟩

theorem from_proto_message_loop_valid {ops : Float64Ops F} {params : List (Option ParameterMessage)} :
    ∀ {seen : List String} {i : Nat} {prms : List (String × List UInt8)},
      fromProtoMessageLoop ops seen i params = .ok prms → Valid ops prms ∧ ∀ prm ∈ prms, prm.1 ∉ seen := by
  induction params with
  | nil =>
      intro seen i prms ok
      cases ok
      exact ⟨valid_nil ops, fun _ none => nomatch none⟩
  | cons param params ih =>
      intro seen i prms ok
      cases param with
      | none => cases ok
      | some prm =>
          rw [fromProtoMessageLoop] at ok
          split_ifs at ok with known
          cases checked : parameterError ops prm.key prm.value with
          | some err => rw [checked] at ok; cases ok
          | none =>
              rw [checked] at ok
              cases rest : fromProtoMessageLoop ops (prm.key :: seen) (i + 1) params with
              | error err => rw [rest] at ok; cases ok
              | ok tail =>
                  rw [rest] at ok
                  cases ok
                  obtain ⟨valid, fresh⟩ := ih rest
                  have later : prm.key ∉ tail.map (·.1) := by
                    simp only [List.mem_map, not_exists, not_and]
                    exact fun other mem same => fresh other mem (same ▸ List.mem_cons_self)
                  refine ⟨⟨List.nodup_cons.mpr ⟨later, valid.nodup⟩, ?_⟩, ?_⟩
                  · intro other mem
                    rcases List.mem_cons.mp mem with rfl | mem
                    · exact checked
                    · exact valid.wellFormed other mem
                  · intro other mem
                    rcases List.mem_cons.mp mem with rfl | mem
                    · exact known
                    · exact fun seenBefore => fresh other mem (List.mem_cons_of_mem _ seenBefore)

theorem from_proto_message_loop_of_valid {ops : Float64Ops F} {prms : List (String × List UInt8)} :
    ∀ {seen : List String} (i : Nat), Valid ops prms → (∀ prm ∈ prms, prm.1 ∉ seen) →
      fromProtoMessageLoop ops seen i (prms.map fun prm => some ⟨prm.1, prm.2⟩) = .ok prms := by
  induction prms with
  | nil => intro seen i _ _; rfl
  | cons prm prms ih =>
      intro seen i valid fresh
      have later : prm.1 ∉ prms.map (·.1) := (List.nodup_cons.mp valid.nodup).1
      have freshTail : ∀ other ∈ prms, other.1 ∉ prm.1 :: seen := by
        intro other mem
        rw [List.mem_cons, not_or]
        exact ⟨fun same => later (same ▸ List.mem_map_of_mem mem), fresh other (List.mem_cons_of_mem _ mem)⟩
      rw [List.map_cons, fromProtoMessageLoop, if_neg (fresh prm List.mem_cons_self),
        valid.wellFormed prm List.mem_cons_self]
      simp only [ih (i + 1) valid.tail freshTail, Except.map]

theorem from_proto_message_valid {ops : Float64Ops F} {x y : NetworkInfo} {m : NetworkInfoMessage}
    {checkFieldPresence : Bool} (valid : Valid ops x.prms) (ok : x.fromProtoMessage ops m checkFieldPresence = .ok y) :
    Valid ops y.prms := by
  cases config : m.networkConfig with
  | none =>
      -- the receiver keeps its parameters
      simp only [fromProtoMessage, config] at ok
      split_ifs at ok
      cases ok
      exact valid
  | some c =>
      simp only [fromProtoMessage, config] at ok
      split_ifs at ok
      cases decoded : fromProtoMessageLoop ops [] 0 c.parameters with
      | error err => simp only [decoded, Except.map] at ok; cases ok
      | ok prms =>
          simp only [decoded, Except.map, Except.ok.injEq] at ok
          rw [← ok]
          exact (from_proto_message_loop_valid decoded).1

theorem unmarshal_proto_message {ops : Float64Ops F} {x : NetworkInfo} (valid : Valid ops x.prms) (y : NetworkInfo) :
    y.fromProtoMessage ops x.protoMessage false =
      .ok ⟨x.curEpoch, x.netMagic, x.msPerBlock, if x.prms = [] then y.prms else x.prms⟩ := by
  by_cases empty : x.prms = []
  · simp [fromProtoMessage, protoMessage, empty]
  · have nonempty : x.prms.isEmpty = false := by simpa using empty
    simp only [fromProtoMessage, protoMessage, nonempty, Bool.false_eq_true, if_false, Bool.false_and,
      if_neg empty, from_proto_message_loop_of_valid 0 valid (fun _ _ => List.not_mem_nil), Except.map]

def NetworkInfo.Mutation.Checked (ops : Float64Ops F) : Mutation F → Prop
  | .setRawNetworkParameter name value => parameterError ops name value = none
  | _ => True

theorem NetworkInfo.Mutation.apply_valid {ops : Float64Ops F} (lawful : ops.Lawful) {x y : NetworkInfo} (valid : Valid ops x.prms)
    {mutation : Mutation F} (checked : mutation.Checked ops) (step : mutation.apply ops x = .ok y) :
    Valid ops y.prms := by
  have uint64 := fun (name : String) (known : name ∈ uint64ConfigNames) (num : UInt64) =>
    valid.setConfig (parameter_error_put_uint64 ops known num)
  have bool := fun (name : String) (known : name ∈ boolConfigNames) =>
    valid.setConfig (parameter_error_bool_bytes ops known true)
  cases mutation with
  | setCurrentEpoch | setMagicNumber | setMsPerBlock => cases step; exact valid
  | setRawNetworkParameter name value => cases step; exact valid.setConfig checked
  | setAuditFee num | setStoragePrice num | setContainerFee num | setNamedContainerFee num
    | setNumberOfEigenTrustIterations num | setEpochDuration num | setIRCandidateFee num | setMaxObjectSize num
    | setWithdrawalFee num =>
      cases step
      exact uint64 _ (by decide) num
  | disableHomomorphicHashing | allowMaintenanceMode =>
      cases step
      exact bool _ (by decide)
  | setEigenTrustAlpha alpha =>
      -- the setter panics out of range, and writes the bits otherwise
      simp only [Mutation.apply, NetworkInfo.setEigenTrustAlpha] at step
      split_ifs at step with out
      cases step
      exact valid.setConfig (parameter_error_alpha lawful (by simpa using out))
  | fromProtoMessage m | unmarshal m =>
      simp only [Mutation.apply] at step
      split at step
      · cases step
        exact from_proto_message_valid valid ‹_›
      · cases step
        exact valid

theorem run_valid {ops : Float64Ops F} (lawful : ops.Lawful) (mutations : List (Mutation F)) :
    ∀ {x y : NetworkInfo}, Valid ops x.prms → (∀ mutation ∈ mutations, mutation.Checked ops) →
      run ops x mutations = .ok y → Valid ops y.prms := by
  induction mutations with
  | nil =>
      intro x y valid _ ran
      cases ran
      exact valid
  | cons mutation mutations ih =>
      intro x y valid checked ran
      rw [run] at ran
      cases step : mutation.apply ops x with
      | error err => rw [step] at ran; cases ran
      | ok next =>
          rw [step] at ran
          exact ih (mutation.apply_valid lawful valid (checked mutation List.mem_cons_self) step)
            (fun other mem => checked other (List.mem_cons_of_mem _ mem)) ran

theorem decode_of_checked {ops : Float64Ops F} {name : String} {val : List UInt8}
    (checked : parameterError ops name val = none) (system : name ∈ uint64ConfigNames ∨ name = configEigenTrustAlpha) :
    ∃ num, decodeConfigValueUint64 val = .ok num := by
  cases decoded : decodeConfigValueUint64 val with
  | ok num => exact ⟨num, rfl⟩
  | error err =>
      exfalso
      rcases system with uint64 | rfl
      · have notAlpha : name ≠ configEigenTrustAlpha := fun same => alpha_not_uint64 (same ▸ uint64)
        simp [parameterError, notAlpha, uint64, decoded] at checked
      · simp [parameterError, decoded] at checked

theorem Valid.config_uint64_ok {ops : Float64Ops F} {x : NetworkInfo} (valid : Valid ops x.prms) {name : String}
    (system : name ∈ uint64ConfigNames ∨ name = configEigenTrustAlpha) : ∃ num, x.configUint64 name = .ok num := by
  cases found : x.configValue name with
  | none => exact ⟨0, by simp [configUint64, found]⟩
  | some val =>
      obtain ⟨num, decoded⟩ := decode_of_checked (valid.wellFormed _ (config_value_mem found)) system
      exact ⟨num, by simp [configUint64, found, decoded]⟩

theorem Valid.config_bool_ok {ops : Float64Ops F} {x : NetworkInfo} (valid : Valid ops x.prms) {name : String}
    (system : name ∈ boolConfigNames) : ∃ val, x.configBool name = .ok val := by
  have notAlpha : name ≠ configEigenTrustAlpha := fun same => alpha_not_bool (same ▸ system)
  cases found : x.configValue name with
  | none => exact ⟨false, by simp [configBool, found]⟩
  | some val =>
      have checked := valid.wellFormed _ (config_value_mem found)
      cases decoded : decodeConfigValueBool val with
      | ok res => exact ⟨res, by simp [configBool, found, decoded]⟩
      | error err => simp [parameterError, notAlpha, bool_not_uint64 system, system, decoded] at checked

theorem Valid.eigen_trust_alpha_ok {ops : Float64Ops F} (lawful : ops.Lawful) {x : NetworkInfo}
    (valid : Valid ops x.prms) : ∃ alpha, x.eigenTrustAlpha ops = .ok alpha := by
  cases found : x.configValue configEigenTrustAlpha with
  | none =>
      refine ⟨ops.frombits 0, ?_⟩
      simp [eigenTrustAlpha, configUint64, found, bind, Except.bind, lawful.zero_in_range]
  | some val =>
      have checked := valid.wellFormed _ (config_value_mem found)
      obtain ⟨num, decoded⟩ := decode_of_checked checked (.inr rfl)
      have inRange : ops.outOfRange (ops.frombits num) = false := by
        simpa [parameterError, decoded] using checked
      exact ⟨ops.frombits num, by simp [eigenTrustAlpha, configUint64, found, decoded, bind, Except.bind, inRange]⟩

theorem Valid.getters_ok {ops : Float64Ops F} (lawful : ops.Lawful) {x : NetworkInfo} (valid : Valid ops x.prms) :
    (∃ fee, x.auditFee = .ok fee) ∧ (∃ price, x.storagePrice = .ok price) ∧ (∃ fee, x.containerFee = .ok fee) ∧
      (∃ fee, x.namedContainerFee = .ok fee) ∧ (∃ alpha, x.eigenTrustAlpha ops = .ok alpha) ∧
      (∃ num, x.numberOfEigenTrustIterations = .ok num) ∧ (∃ blocks, x.epochDuration = .ok blocks) ∧
      (∃ fee, x.iRCandidateFee = .ok fee) ∧ (∃ sz, x.maxObjectSize = .ok sz) ∧ (∃ sz, x.withdrawalFee = .ok sz) ∧
      (∃ disabled, x.homomorphicHashingDisabled = .ok disabled) ∧
      (∃ allowed, x.maintenanceModeAllowed = .ok allowed) :=
  ⟨valid.config_uint64_ok (.inl (by decide)), valid.config_uint64_ok (.inl (by decide)),
    valid.config_uint64_ok (.inl (by decide)), valid.config_uint64_ok (.inl (by decide)),
    valid.eigen_trust_alpha_ok lawful, valid.config_uint64_ok (.inl (by decide)),
    valid.config_uint64_ok (.inl (by decide)), valid.config_uint64_ok (.inl (by decide)),
    valid.config_uint64_ok (.inl (by decide)), valid.config_uint64_ok (.inl (by decide)),
    valid.config_bool_ok (by decide), valid.config_bool_ok (by decide)⟩

theorem run_getters_and_round_trip {ops : Float64Ops F} (lawful : ops.Lawful) (mutations : List (Mutation F))
    (checked : ∀ mutation ∈ mutations, mutation.Checked ops) {y : NetworkInfo}
    (ran : run ops NetworkInfo.zero mutations = .ok y) :
    ((∃ fee, y.auditFee = .ok fee) ∧ (∃ price, y.storagePrice = .ok price) ∧ (∃ fee, y.containerFee = .ok fee) ∧
      (∃ fee, y.namedContainerFee = .ok fee) ∧ (∃ alpha, y.eigenTrustAlpha ops = .ok alpha) ∧
      (∃ num, y.numberOfEigenTrustIterations = .ok num) ∧ (∃ blocks, y.epochDuration = .ok blocks) ∧
      (∃ fee, y.iRCandidateFee = .ok fee) ∧ (∃ sz, y.maxObjectSize = .ok sz) ∧ (∃ sz, y.withdrawalFee = .ok sz) ∧
      (∃ disabled, y.homomorphicHashingDisabled = .ok disabled) ∧
      (∃ allowed, y.maintenanceModeAllowed = .ok allowed)) ∧
      NetworkInfo.zero.fromProtoMessage ops y.protoMessage false = .ok y := by
  have valid := run_valid lawful mutations (valid_nil ops) checked ran
  refine ⟨valid.getters_ok lawful, ?_⟩
  rw [unmarshal_proto_message valid]
  by_cases empty : y.prms = []
  · -- the zero receiver's own parameters are the empty list y holds
    rw [if_pos empty, show NetworkInfo.zero.prms = y.prms from empty.symm]
  · rw [if_neg empty]

end Validity

/- A raw parameter is written unchecked: a system name with a malformed value makes its getter
   panic, and an empty value makes the encoding fail to decode. -/

theorem raw_parameter_breaks_network_info {F : Type} (ops : Float64Ops F) :
    (∃ x, NetworkInfo.run ops .zero [.setRawNetworkParameter configMaxObjSize (List.replicate 9 0)] = .ok x ∧
        x.maxObjectSize = .error (.panic "invalid uint64 parameter length 9")) ∧
      ∃ x, NetworkInfo.run ops .zero [.setRawNetworkParameter "k" []] = .ok x ∧
        NetworkInfo.zero.fromProtoMessage ops x.protoMessage false = .error "empty \"k\" parameter value" :=
  ⟨⟨_, rfl, rfl⟩, ⟨_, rfl, rfl⟩⟩

end NeoFS.Netmap
