import Jordan.Bluetooth.RefFile

/-! # Switching Bluetooth on and off

`bt_enable` and `bt_disable` of `bluedroid.c`, called by several clients one
after the other. The chip is shared: `bt_disable` stops the daemons and cuts the
power only when the count in the reference file is no longer positive, and
`bt_enable` cuts the power when it fails half-way.

A failure of `dec_atomic` is a negative count and counts as the last user; a
failure of `inc_atomic` is ignored, so that a client is not counted. When
neither happens to a client that matters, no power is cut under another client
(`Jordan.Bluetooth.neverCutUnder_of_guarded`).
-/

namespace Jordan.Bluetooth

open Execution

/-! ## The reference file -/

/-- The outcomes of the system calls of `inc_atomic` and `dec_atomic`. A transfer
of the whole reference succeeds or fails. -/
structure RefEnv where
  openFile : Bool
  lockShared : Bool
  read : Bool
  unlock : Bool
  lockExclusive : Bool
  write : Bool
deriving DecidableEq, Repr

/-- No system call fails. -/
def RefEnv.Succeeds (env : RefEnv) : Prop := env = ⟨true, true, true, true, true, true⟩

instance (env : RefEnv) : Decidable env.Succeeds := inferInstanceAs (Decidable (env = _))

/-- `inc_atomic` and `dec_atomic` once the file is open: what is returned, and the
content of the file. -/
def updateRef (call : RefCall) (env : RefEnv) (content : RefFile) : Int × RefFile :=
  if env.lockShared = false then (-1, content)
  else if env.read = false then (-1, content)
  else
    let ref := call.update (readRef content)
    if env.unlock = false then (-1, content)
    else if env.lockExclusive = false then (-1, content)
    else if env.write = false then (-1, content)
    else (ref.base.toInt, some ref)

/-- `inc_atomic`, which creates the file; `none` is a file that does not exist. -/
def incAtomic (env : RefEnv) (file : Option RefFile) : Int × Option RefFile :=
  if env.openFile = false then (-2, file)
  else
    let (ret, content) := updateRef .incAtomic env (file.getD none)
    (ret, some content)

/-- `dec_atomic`, which does not create the file. -/
def decAtomic (env : RefEnv) (file : Option RefFile) : Int × Option RefFile :=
  match file with
  | none => (-2, none)
  | some content =>
      if env.openFile = false then (-2, some content)
      else
        let (ret, content) := updateRef .decAtomic env content
        (ret, some content)

/-- The count of the file. A file that does not exist counts as 0. -/
def fileCount (file : Option RefFile) : Nat := refCount (file.getD none)

/-! ## `bt_enable` and `bt_disable` -/

/-- What `check_bluetooth_power` returns: -1 when it fails. -/
inductive RfkillState where
  | failed
  | off
  | on
deriving DecidableEq, Repr

/-- The outcomes of `bt_is_enabled`: the power, `create_hci_sock`, and the bit
`HCI_UP` unless the ioctl fails. -/
structure IsEnabledEnv where
  power : RfkillState
  socket : Bool
  hciUp : Option Bool
deriving DecidableEq, Repr

/-- `bt_is_enabled` -/
def btIsEnabled (env : IsEnabledEnv) : Int :=
  match env.power with
  | .failed => -1
  | .off => 0
  | .on =>
      if env.socket = false then -1
      else
        match env.hciUp with
        | none => 0
        | some up => if up then 1 else 0

/-- The requests that switch Bluetooth off. -/
inductive OffRequest where
  | stopBluetoothd
  | stopHciattach
  | powerOff
deriving DecidableEq, Repr

/-- The outcomes of `bt_enable`. `devUp` holds those of the attempts to bring the
device up. -/
structure EnableEnv where
  isEnabled : IsEnabledEnv
  powerOn : Bool
  startHciattach : Bool
  socket : Bool
  devUp : Nat → Bool
  startBluetoothd : Bool
  ref : RefEnv

/-- The loop over `HCIDEVUP`: the value of `attempt` when it ends. -/
def waitDevUp (devUp : Nat → Bool) : Nat → Nat
  | 0 => 0
  | attempt + 1 => if devUp (attempt + 1) then attempt + 1 else waitDevUp devUp attempt

/-- `bt_enable` up to its end: what it returns, and the requests to switch off. -/
def startBluetooth (env : EnableEnv) : Int × List OffRequest :=
  if btIsEnabled env.isEnabled = 1 then (0, [])
  else if env.powerOn = false then (-1, [])
  else if env.startHciattach = false then (-1, [.powerOff])
  else if env.socket = false then (-1, [])
  -- timeout waiting for the HCI device
  else if waitDevUp env.devUp 1000 = 0 then (-1, [.powerOff])
  else if env.startBluetoothd = false then (-1, [.powerOff])
  else (0, [])

/-- `bt_enable`, on the reference file. -/
def btEnable (env : EnableEnv) (file : Option RefFile) : Int × List OffRequest × Option RefFile :=
  let (ret, requests) := startBluetooth env
  (ret, requests, if ret = 0 then (incAtomic env.ref file).2 else file)

/-- The outcomes of `bt_disable`. -/
structure DisableEnv where
  ref : RefEnv
  stopBluetoothd : Bool
  socket : Bool
  stopHciattach : Bool
  powerOff : Bool
deriving DecidableEq, Repr

/-- `bt_disable`, on the reference file. -/
def btDisable (env : DisableEnv) (file : Option RefFile) :
    Int × List OffRequest × Option RefFile :=
  let (refcount, file) := decAtomic env.ref file
  if refcount > 0 then (0, [], file)
  else if env.stopBluetoothd = false then (-1, [.stopBluetoothd], file)
  else if env.socket = false then (-1, [.stopBluetoothd], file)
  else if env.stopHciattach = false then (-1, [.stopBluetoothd, .stopHciattach], file)
  else (if env.powerOff then 0 else -1, [.stopBluetoothd, .stopHciattach, .powerOff], file)

/-! ## Several clients -/

/-- The reference file, and the clients of the successful calls of `bt_enable`
that have not been disabled. -/
structure Chip (Client : Type*) where
  file : Option RefFile
  holds : List Client

/-- A call of a client. -/
inductive ClientCall (Client : Type*) where
  | enable (client : Client) (env : EnableEnv)
  | disable (client : Client) (env : DisableEnv)

variable {Client : Type*}

def ClientCall.client : ClientCall Client → Client
  | .enable client _ => client
  | .disable client _ => client

/-- The requests to switch off that a call makes. -/
def Chip.requests (chip : Chip Client) : ClientCall Client → List OffRequest
  | .enable _ env => (btEnable env chip.file).2.1
  | .disable _ env => (btDisable env chip.file).2.1

/-- Another client than the caller holds an enable. -/
def Chip.OthersHold (chip : Chip Client) (caller : Client) : Prop :=
  ∃ other ∈ chip.holds, other ≠ caller

instance [DecidableEq Client] (chip : Chip Client) (caller : Client) :
    Decidable (chip.OthersHold caller) :=
  inferInstanceAs (Decidable (∃ other ∈ chip.holds, _))

/-- A call switches Bluetooth off only when no other client holds it. -/
def NeverCutUnder (before : Chip Client) (call : ClientCall Client) (_ : Chip Client) : Prop :=
  before.OthersHold call.client → before.requests call = []

instance [DecidableEq Client] (before : Chip Client) (call : ClientCall Client)
    (after : Chip Client) : Decidable (NeverCutUnder before call after) :=
  inferInstanceAs (Decidable (_ → _))

/-- Bluetooth is on already, or everything needed to switch it on succeeds. -/
def EnableEnv.Starts (env : EnableEnv) : Prop :=
  btIsEnabled env.isEnabled = 1 ∨
    env.powerOn = true ∧ env.startHciattach = true ∧ env.socket = true ∧
      waitDevUp env.devUp 1000 ≠ 0 ∧ env.startBluetoothd = true

instance (env : EnableEnv) : Decidable env.Starts :=
  inferInstanceAs (Decidable (_ ∨ _ ∧ _ ∧ _ ∧ _ ∧ _))

/-- Bluetooth is found to be off, the power is switched on, and then a daemon or
the device does not come up. -/
def EnableEnv.FailsHalfway (env : EnableEnv) : Prop :=
  btIsEnabled env.isEnabled ≠ 1 ∧ env.powerOn = true ∧
    (env.startHciattach = false ∨ env.socket = true ∧
      (waitDevUp env.devUp 1000 = 0 ∨ env.startBluetoothd = false))

instance (env : EnableEnv) : Decidable env.FailsHalfway :=
  inferInstanceAs (Decidable (_ ∧ _ ∧ (_ ∨ _ ∧ (_ ∨ _))))

/-- The failures that matter do not happen: one of `inc_atomic`, in a `bt_enable`
that succeeds; and while another client holds an enable, one of `dec_atomic`, and
one half-way through `bt_enable`. The count stays below 2^31. -/
def Counted (before : Chip Client) (call : ClientCall Client) : Prop :=
  fileCount before.file < 2 ^ 31 ∧
    match call with
    | .enable client env =>
        (env.Starts → env.ref.Succeeds) ∧ (before.OthersHold client → ¬ env.FailsHalfway)
    | .disable client env => before.OthersHold client → env.ref.Succeeds

variable [DecidableEq Client]

instance (before : Chip Client) : DecidablePred (Counted before)
  | .enable _ _ => inferInstanceAs (Decidable (_ ∧ (_ → _) ∧ (_ → ¬ _)))
  | .disable _ _ => inferInstanceAs (Decidable (_ ∧ (_ → _)))

/-- One call. A client disables only what it holds. -/
def Chip.step (chip : Chip Client) : ClientCall Client → Option (Chip Client)
  | .enable client env =>
      let (ret, _, file) := btEnable env chip.file
      some ⟨file, if ret = 0 then client :: chip.holds else chip.holds⟩
  | .disable client env =>
      if client ∈ chip.holds then
        some ⟨(btDisable env chip.file).2.2, chip.holds.erase client⟩
      else none

/-! ## The count -/

section Count

variable {env : RefEnv} {call : RefCall}

/-- An update that fails leaves the content as it is. -/
theorem updateRef_cases (call : RefCall) (env : RefEnv) (content : RefFile) :
    (updateRef call env content).2 = content ∨
      (updateRef call env content).2 = some (call.update (readRef content)) := by
  unfold updateRef
  split_ifs
  · exact .inl rfl
  · exact .inl rfl
  · exact .inl rfl
  · exact .inl rfl
  · exact .inl rfl
  · exact .inr rfl

theorem updateRef_of_succeeds (succeeds : env.Succeeds) (content : RefFile) :
    updateRef call env content =
      ((call.update (readRef content)).base.toInt, some (call.update (readRef content))) := by
  rw [RefEnv.Succeeds] at succeeds
  subst succeeds
  rfl

/-- The count after an update in range. -/
theorem refCount_update {content : RefFile} (inRange : call.InRange (refCount content)) :
    (refCount (some (call.update (readRef content))) : Int) = refCount content + call.delta := by
  rw [refCount_some (call.update_magic _)]
  exact toNat_update_base call content inRange

/-- An increment that succeeds adds one to the count in the file. -/
theorem fileCount_incAtomic (succeeds : env.Succeeds) {file : Option RefFile}
    (small : fileCount file < 2 ^ 31) : fileCount (incAtomic env file).2 = fileCount file + 1 := by
  have opened : env.openFile = true := congrArg RefEnv.openFile succeeds
  have inRange : RefCall.incAtomic.InRange (refCount (file.getD none)) := by
    change refCount (file.getD none) + 1 < 2 ^ 32
    unfold fileCount at small
    omega
  have counted := refCount_update inRange
  have updated : (incAtomic env file).2 = some (some (incRef (readRef (file.getD none)))) := by
    unfold incAtomic
    rw [opened, updateRef_of_succeeds succeeds]
    rfl
  rw [updated]
  exact Int.ofNat_inj.mp counted

/-- `dec_atomic` takes at most one off. -/
theorem fileCount_decAtomic (env : RefEnv) (file : Option RefFile) :
    fileCount file ≤ fileCount (decAtomic env file).2 + 1 := by
  cases file with
  | none => exact Nat.zero_le _
  | some content =>
      unfold decAtomic
      simp only
      split
      · exact Nat.le_succ _
      · rcases updateRef_cases .decAtomic env content with same | updated
        · simp only [same]
          exact Nat.le_succ _
        · simp only [updated]
          rcases Nat.eq_zero_or_pos (refCount content) with zero | positive
          · rw [fileCount, Option.getD_some, zero]
            exact Nat.zero_le _
          · have inRange : RefCall.decAtomic.InRange (refCount content) := positive
            have counted := refCount_update inRange
            simp only [RefCall.delta] at counted
            simp only [fileCount, Option.getD_some]
            omega

/-- With more than one on the count, `dec_atomic` returns what is left. -/
theorem decAtomic_positive (succeeds : env.Succeeds) {file : Option RefFile}
    (several : 1 < fileCount file) (small : fileCount file < 2 ^ 31) :
    (decAtomic env file).1 > 0 := by
  cases file with
  | none => exact absurd several (by decide)
  | some content =>
      have opened : env.openFile = true := congrArg RefEnv.openFile succeeds
      have positive : RefCall.decAtomic.InRange (refCount content) := Nat.lt_of_succ_lt several
      have left := toNat_update_base .decAtomic content positive
      have returned : (decAtomic env (some content)).1 =
          (RefCall.decAtomic.update (readRef content)).base.toInt := by
        unfold decAtomic
        simp only [opened, Bool.true_eq_false, ↓reduceIte, updateRef_of_succeeds succeeds]
      rw [returned]
      simp only [fileCount, Option.getD_some] at several small
      simp only [RefCall.delta] at left
      rw [BitVec.toInt_eq_toNat_of_lt (by omega)]
      omega

end Count

/-! ## The clients are counted -/

theorem startBluetooth_eq_zero_iff (env : EnableEnv) : (startBluetooth env).1 = 0 ↔ env.Starts := by
  unfold startBluetooth EnableEnv.Starts
  split_ifs with enabled power hciattach socket timeout bluetoothd
  · exact iff_of_true rfl (.inl enabled)
  · simp [enabled, power]
  · simp [enabled, hciattach]
  · simp [enabled, socket]
  · simp [enabled, timeout]
  · simp [enabled, bluetoothd]
  · simp [enabled, power, hciattach, socket, timeout, bluetoothd]

/-- A start that does not fail halfway leaves the power alone. -/
theorem startBluetooth_requests {env : EnableEnv} (fine : ¬ env.FailsHalfway) :
    (startBluetooth env).2 = [] := by
  unfold startBluetooth
  unfold EnableEnv.FailsHalfway at fine
  split_ifs with enabled power hciattach socket timeout bluetoothd
  · rfl
  · rfl
  · exact absurd ⟨enabled, Bool.eq_true_of_not_eq_false power, .inl hciattach⟩ fine
  · rfl
  · exact absurd ⟨enabled, Bool.eq_true_of_not_eq_false power,
      .inr ⟨Bool.eq_true_of_not_eq_false socket, .inl timeout⟩⟩ fine
  · exact absurd ⟨enabled, Bool.eq_true_of_not_eq_false power,
      .inr ⟨Bool.eq_true_of_not_eq_false socket, .inr bluetoothd⟩⟩ fine
  · rfl

/-- `bt_disable` does nothing while the count is positive. -/
theorem btDisable_requests {env : DisableEnv} {file : Option RefFile}
    (positive : (decAtomic env.ref file).1 > 0) : (btDisable env file).2.1 = [] := by
  simp only [btDisable, positive, ↓reduceIte]

theorem btDisable_file (env : DisableEnv) (file : Option RefFile) :
    (btDisable env file).2.2 = (decAtomic env.ref file).2 := by
  simp only [btDisable]
  split_ifs <;> rfl

/-- The invariant: the file counts at least the enables that are held. -/
def Chip.AllCounted (chip : Chip Client) : Prop := chip.holds.length ≤ fileCount chip.file

/-- A client that disables while another one holds an enable is not the last. -/
theorem Chip.AllCounted.several {chip : Chip Client} (counted : chip.AllCounted) {client : Client}
    (member : client ∈ chip.holds) (others : chip.OthersHold client) :
    1 < fileCount chip.file := by
  obtain ⟨other, holds, differs⟩ := others
  have left : 0 < (chip.holds.erase client).length :=
    List.length_pos_of_mem ((List.mem_erase_of_ne differs).mpr holds)
  rw [List.length_erase_of_mem member] at left
  unfold Chip.AllCounted at counted
  omega

theorem Chip.step_enable (chip : Chip Client) (client : Client) (env : EnableEnv) :
    chip.step (.enable client env) =
      some ⟨if (startBluetooth env).1 = 0 then (incAtomic env.ref chip.file).2 else chip.file,
        if (startBluetooth env).1 = 0 then client :: chip.holds else chip.holds⟩ := rfl

/-- A counted `bt_enable` keeps the clients counted and cuts nobody under. -/
theorem Chip.AllCounted.enable {chip : Chip Client} (counted : chip.AllCounted) {client : Client}
    {env : EnableEnv} (allowed : Counted chip (.enable client env)) {after : Chip Client}
    (taken : chip.step (.enable client env) = some after) :
    after.AllCounted ∧ NeverCutUnder chip (.enable client env) after := by
  obtain ⟨small, included, whole⟩ := allowed
  rw [Chip.step_enable] at taken
  obtain rfl := Option.some.inj taken
  refine ⟨?_, fun others => startBluetooth_requests (whole others)⟩
  unfold Chip.AllCounted at counted ⊢
  by_cases starts : (startBluetooth env).1 = 0
  · have succeeds := included ((startBluetooth_eq_zero_iff env).mp starts)
    simp only [starts, ↓reduceIte, List.length_cons]
    rw [fileCount_incAtomic succeeds small]
    exact Nat.succ_le_succ counted
  · simp only [starts, ↓reduceIte]
    exact counted

theorem Chip.AllCounted.disable {chip : Chip Client} (counted : chip.AllCounted) {client : Client}
    {env : DisableEnv} (allowed : Counted chip (.disable client env)) {after : Chip Client}
    (taken : chip.step (.disable client env) = some after) :
    after.AllCounted ∧ NeverCutUnder chip (.disable client env) after := by
  obtain ⟨small, succeeds⟩ := allowed
  obtain ⟨member, ⟨⟩⟩ := Option.ite_none_right_eq_some.mp taken
  constructor
  · have dropped := fileCount_decAtomic env.ref chip.file
    unfold Chip.AllCounted at counted ⊢
    simp only [btDisable_file, List.length_erase_of_mem member]
    omega
  · intro others
    have several := counted.several member others
    exact btDisable_requests (decAtomic_positive (succeeds others) several small)

/-- **No power is cut under another client** in a run without the failures that
matter, from any reference file. -/
theorem neverCutUnder_of_guarded (file : Option RefFile) (calls : List (ClientCall Client))
    (counted : Guarded Chip.step Counted ⟨file, []⟩ calls) :
    Along Chip.step NeverCutUnder ⟨file, []⟩ calls := by
  refine along_of_invariant Chip.AllCounted ?_ (Nat.zero_le _) counted
  intro before call after held allowed taken
  cases call with
  | enable client env => exact held.enable allowed taken
  | disable client env => exact held.disable allowed taken

/-- Nothing fails. -/
def refServes : RefEnv := ⟨true, true, true, true, true, true⟩

/-- The device comes up at the first attempt. -/
def switchOn : EnableEnv :=
  ⟨⟨.off, true, some false⟩, true, true, true, fun _ => true, true, refServes⟩

/-- Bluetooth is on already. -/
def alreadyOn : EnableEnv := { switchOn with isEnabled := ⟨.on, true, some true⟩ }

def switchOff (ref : RefEnv) : DisableEnv := ⟨ref, true, true, true, true⟩

/-- Two clients; the second tries in vain when it is alone. -/
def twoClients : List (ClientCall Bool) :=
  [.enable true { switchOn with startBluetoothd := false }, .enable false switchOn,
    .enable true alreadyOn, .disable false (switchOff refServes),
    .disable true (switchOff refServes)]

theorem twoClients_neverCutUnder : Along Chip.step NeverCutUnder ⟨none, []⟩ twoClients :=
  neverCutUnder_of_guarded none twoClients (by decide)

/-- The first client disables, and `fcntl` in `dec_atomic` fails. -/
def failedDecrement : List (ClientCall Bool) :=
  [.enable false switchOn, .enable true alreadyOn,
    .disable false (switchOff { refServes with lockShared := false })]

/-- The second client loses the power. -/
theorem failedDecrement_cuts : ¬ Along Chip.step NeverCutUnder ⟨none, []⟩ failedDecrement := by
  decide

end Jordan.Bluetooth
