import Mathlib.Algebra.Group.Nat.Defs
import Mathlib.Data.Rat.Defs
import ProxVM.Iam.Effective

/-!
# Guest configuration strings

The pure helpers at the end of `provisioning/pipeline.ts`: which access protocols
and ports a guest gets, which address of a guest is usable, and how `netN` and
disk entries of a Proxmox configuration are taken apart and put together.

Text is handled as lists of characters.  Sizes are exact rationals.
-/

namespace ProxVM

/-! ## Protocols -/

/-- `resolveProtocols`: the requested protocols, else the template's, else the
default of the operating system. -/
def resolveProtocols (protocols : Option (List Protocol)) (osType : OsType)
    (supported : Option (List Protocol)) : List Protocol :=
  match protocols, supported with
  | some (p :: ps), _ => unique (p :: ps)
  | _, some (p :: ps) => unique (p :: ps)
  | _, _ => [if osType = .windows then .rdp else .ssh]

def portForProtocol : Protocol → Nat
  | .rdp => 3389
  | .vnc => 5900
  | .ssh => 22

inductive VerifyMechanism
  | ssh
  | rdpPort
  | vncPort
  deriving DecidableEq, Repr

def selectVerifyMechanism (protocols : List Protocol) (osType : OsType) : VerifyMechanism :=
  if .ssh ∈ protocols then
    .ssh
  else if osType = .windows ∨ .rdp ∈ protocols then
    .rdpPort
  else
    .vncPort

def portForVerifyMechanism : VerifyMechanism → Nat
  | .rdpPort => 3389
  | .vncPort => 5900
  | .ssh => 22

/-! ## Addresses -/

def isDottedQuad (address : String) : Bool :=
  match address.toList.splitOn '.' with
  | [a, b, c, d] => [a, b, c, d].all fun part => !part.isEmpty && part.all Char.isDigit
  | _ => false

/-- `selectUsableIpv4`: the first address that is neither loopback nor link-local
nor in `0.` or `255.`. -/
def selectUsableIpv4 (addresses : List String) : Option String :=
  addresses.find? fun a =>
    isDottedQuad a && !"127.".toList.isPrefixOf a.toList && !"169.254.".toList.isPrefixOf a.toList &&
      !"0.".toList.isPrefixOf a.toList && decide ((a.toList.splitOn '.').head? ≠ some "255".toList)

/-! ## Network devices -/

def parts (value : String) : List (List Char) := value.toList.splitOn ','

/-- Cut a part at its first `=`; without one there is no value. -/
def cutAtEq (part : List Char) : List Char × Option (List Char) :=
  match part.dropWhile fun c => c ≠ '=' with
  | [] => (part, none)
  | _ :: value => (part.takeWhile fun c => c ≠ '=', some value)

/-- `netIndex`: the first `netN` key with `N < 32`. -/
def netIndex (cfg : List (String × String)) : Option String :=
  ((List.range 32).map fun i => "net" ++ toString i).find? fun key => (cfg.lookup key).isSome

structure ParsedNet where
  model : String
  macaddr : Option String
  bridge : Option String
  deriving DecidableEq, Repr

def parseNet (value : String) : ParsedNet :=
  let first := (parts value).headD []
  let start : ParsedNet :=
    match cutAtEq first with
    | (name, some mac) =>
        { model := if name.isEmpty then "virtio" else String.ofList name
          macaddr := if mac.isEmpty then none else some (String.ofList mac)
          bridge := none }
    | (name, none) =>
        { model := if name.isEmpty then "virtio" else String.ofList name, macaddr := none, bridge := none }
  (parts value).foldl (fun net part =>
    match cutAtEq part with
    | (_, none) => net
    | (key, some v) =>
        if key = "bridge".toList then
          { net with bridge := some (String.ofList v) }
        else if key = "model".toList then
          { net with model := String.ofList v }
        else
          net) start

/-- `buildNet`: a VLAN of 0 is no VLAN. -/
def buildNet (model : String) (macaddr : Option String) (bridge : String) (vlan : Option Nat)
    (extra : List String) : String :=
  let first := match macaddr with
    | some mac => model ++ "=" ++ mac
    | none => model
  let tag := match vlan with
    | some (n + 1) => ",tag=" ++ toString (n + 1)
    | _ => ""
  ",".intercalate (first :: ("bridge=" ++ bridge ++ tag) :: extra)

/-- `extraNetOptions`: every option of the template's device that provisioning does
not manage itself. -/
def extraNetOptions (raw : Option String) (model : String) : List String :=
  ((parts (raw.getD "")).filter fun part =>
    !part.isEmpty &&
      !(["bridge", "tag", "model", "macaddr"].map String.toList).contains (cutAtEq part).1 &&
      !(decide (part = model.toList) || (model.toList ++ ['=']).isPrefixOf part)).map String.ofList

/-! ## Disks -/

def rootDisk (cfg : List (String × String)) : Option String :=
  ["scsi0", "virtio0", "ide0", "sata0"].find? fun key => (cfg.lookup key).isSome

def digitsValue (digits : List Char) : Nat :=
  digits.foldl (fun n c => 10 * n + (c.toNat - '0'.toNat)) 0

/-- What `size=(\d+(?:\.\d+)?)([KMG]?)` yields in bytes if it matches right here. -/
def diskSizeAt (chars : List Char) : Option Rat :=
  if (chars.take 5).map Char.toLower = "size=".toList then
    let rest := chars.drop 5
    let whole := rest.takeWhile Char.isDigit
    if whole.isEmpty then
      none
    else
      let rest := rest.dropWhile Char.isDigit
      let fraction := match rest with
        | '.' :: rest' => rest'.takeWhile Char.isDigit
        | _ => []
      let rest := if fraction.isEmpty then rest else rest.drop (fraction.length + 1)
      let num : Rat := digitsValue (whole ++ fraction) / (10 ^ fraction.length : Nat)
      match rest.head?.map Char.toUpper with
      | some 'K' => some (num * 1024)
      | some 'M' => some (num * 1024 ^ 2)
      | _ => some (num * 1024 ^ 3)
  else
    none

def firstDiskSize : List Char → Option Rat
  | [] => none
  | c :: cs => diskSizeAt (c :: cs) <|> firstDiskSize cs

def diskSizeOf (value : String) : Option Rat := firstDiskSize value.toList

example : diskSizeOf "local-lvm:vm-100-disk-0,size=1.5G" = some 1610612736 := by
  decide +kernel

end ProxVM
