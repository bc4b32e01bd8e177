import ProxVM.Shared.Enums

/-!
# The credential vault

The table `vm_credentials` and the statements of `CredentialsService`
(`services/credentials.ts`).  `UNIQUE (vm_id)` makes the table a
map from VMs to rows.  The timestamps are left out: nothing modelled here reads
them.
-/

namespace ProxVM

abbrev CredentialId := Nat

/-- A row of `vm_credentials`. -/
structure VmCredentialRow where
  id : CredentialId
  vmId : VmId
  username : String
  passwordCiphertext : String
  keyId : String
  status : CredStatus
  deriving DecidableEq, Repr

/-- `keyIdOf`: the part before the first colon, `v1` where there is none. -/
def keyIdOf (ciphertext : String) : String :=
  let key := ciphertext.toList.takeWhile fun c => decide (c ≠ ':')
  if key ≠ [] ∧ key.length < ciphertext.toList.length then String.ofList key else "v1"

abbrev Vault := VmId → Option VmCredentialRow

namespace Vault

variable {vault : Vault} {vmId vmId' : VmId} {row : VmCredentialRow}

/-- `UPDATE vm_credentials SET … WHERE vm_id = $1`. -/
def updateByVm (vault : Vault) (vmId : VmId) (f : VmCredentialRow → VmCredentialRow) : Vault :=
  fun v => if v = vmId then (vault v).map f else vault v

/-- `UPDATE vm_credentials SET … WHERE id = $1`. -/
def updateById (vault : Vault) (id : CredentialId) (f : VmCredentialRow → VmCredentialRow) : Vault :=
  fun v => (vault v).map fun row => if row.id = id then f row else row

def setStatus (vault : Vault) (vmId : VmId) (status : CredStatus) : Vault :=
  vault.updateByVm vmId fun row => { row with status }

/-- The row that `tryClaimRotation` updates: one that is not `ROTATING`. -/
def claimable (vault : Vault) (vmId : VmId) : Bool :=
  match vault vmId with
  | some row => decide (row.status ≠ .rotating)
  | none => false

/-- `tryClaimRotation`: the statement and whether it updated a row. -/
def tryClaimRotation (vault : Vault) (vmId : VmId) : Bool × Vault :=
  (vault.claimable vmId, if vault.claimable vmId then vault.setStatus vmId .rotating else vault)

/-- `updateRow`, with the new ciphertext. -/
def updateRow (vault : Vault) (id : CredentialId) (username ciphertext : String)
    (status : CredStatus) : Vault :=
  vault.updateById id fun row =>
    { row with username, passwordCiphertext := ciphertext, keyId := keyIdOf ciphertext, status }

/-- The `INSERT` of `store`: the VM has no row yet. -/
def insert (vault : Vault) (row : VmCredentialRow) : Vault :=
  fun v => if v = row.vmId then some row else vault v

def delete (vault : Vault) (vmId : VmId) : Vault :=
  fun v => if v = vmId then none else vault v

def statusOf (vault : Vault) (vmId : VmId) : Option CredStatus :=
  (vault vmId).map VmCredentialRow.status

/-! ## What the statements leave -/

@[simp] theorem setStatus_self (status : CredStatus) :
    vault.setStatus vmId status vmId = (vault vmId).map fun row => { row with status } := by
  simp [setStatus, updateByVm]

theorem updateRow_self {id : CredentialId} (hrow : vault vmId = some row) (hid : row.id = id)
    (username ciphertext : String) (status : CredStatus) :
    vault.updateRow id username ciphertext status vmId = some { row with
        username, passwordCiphertext := ciphertext, keyId := keyIdOf ciphertext, status } := by
  simp [updateRow, updateById, hrow, hid]

theorem claimable_eq_true :
    vault.claimable vmId = true ↔ ∃ row, vault vmId = some row ∧ row.status ≠ .rotating := by
  unfold claimable
  cases vault vmId with
  | none => simp
  | some row => simp

end Vault

end ProxVM
