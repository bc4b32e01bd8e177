import ProxVM.Guacamole.Endpoints

/-!
# Deleting connections

`deleteConnectionRecord` and `deleteVmResources` of `services/guacamole.ts`.  Guacamole
addresses a connection by its name, and rows of `guacamole_connections` may share one, so both
ask first whether another row carries the name (`isConnectionNameShared`).

`isConnectionNameShared` answers no for an empty name.  `deleteConnectionRecord` does not ask
for such a row; `deleteVmResources` does, and deletes.  **`deletion_keeps_shared_iff`**: this is
the only way to take a connection that another VM refers to.
-/

namespace ProxVM

open Tables Fallible Guac

inductive DeletionPoint
  | listConnectionRecords
  | findConnectionRecord
  | isConnectionNameShared (id : Nat)
  | deleteConnection (name : String)
  | deleteRow (id : Nat)
  deriving DecidableEq, Repr

def reachDeletion (fails : DeletionPoint → Bool) (point : DeletionPoint) : EndpointProgram Unit :=
  ensure (!fails point) (AppError.external "Guacamole" "Failed to delete Guacamole connection")

namespace Endpoints

/-- `isConnectionNameShared`: another row carries the name. -/
def isConnectionNameShared (s : Endpoints) (record : EndpointRow) : Bool :=
  if record.guacConnectionName = "" then
    false
  else
    s.connections.rows.any fun c =>
      decide (c.guacConnectionName = record.guacConnectionName) && decide (c.id ≠ record.id)

/-- `DELETE FROM guacamole_connections WHERE id = $1`. -/
def deleteRow (s : Endpoints) (id : Nat) : Endpoints :=
  { s with connections := s.connections.deleteWhere fun c => decide (c.id = id) }

/-- `guacDb.deleteConnection`: one statement, the same for both engines. -/
def deleteConnection (s : Endpoints) (name : String) : Endpoints :=
  { s with guac := ((deleteConnections name s.guac).map Prod.snd).getD s.guac }

end Endpoints

def deleteConnectionRecord (fails : DeletionPoint → Bool) (connectionRecordId : Nat) :
    EndpointProgram Bool := do
  reachDeletion fails .findConnectionRecord
  let result ← query fun s => s.connections.find? connectionRecordId
  match result with
  | none => pure false
  | some record => do
    if record.guacConnectionName ≠ "" then do
      reachDeletion fails (.isConnectionNameShared record.id)
      let shared ← query fun s => s.isConnectionNameShared record
      if shared then pure ()
      else do
        reachDeletion fails (.deleteConnection record.guacConnectionName)
        write fun s => s.deleteConnection record.guacConnectionName
    else pure ()
    reachDeletion fails (.deleteRow record.id)
    write fun s => s.deleteRow connectionRecordId
    pure true

/-- One round of `deleteVmResources`. -/
def deleteVmConnection (fails : DeletionPoint → Bool) (connection : EndpointRow) :
    EndpointProgram PUnit := do
  reachDeletion fails (.isConnectionNameShared connection.id)
  let shared ← query fun s => s.isConnectionNameShared connection
  if shared then pure ()
  else do
    reachDeletion fails (.deleteConnection connection.guacConnectionName)
    write fun s => s.deleteConnection connection.guacConnectionName
  reachDeletion fails (.deleteRow connection.id)
  write fun s => s.deleteRow connection.id

def deleteVmResources (fails : DeletionPoint → Bool) (vmId : VmId) : EndpointProgram Unit := do
  reachDeletion fails .listConnectionRecords
  let connections ← query fun s => s.listConnectionRecords vmId
  forM connections (deleteVmConnection fails)

def Endpoints.Deletes (s s' : Endpoints) (row : ConnectionRow) : Prop :=
  row ∈ s.guac.connections ∧ row ∉ s'.guac.connections

def Endpoints.UnnamedShared (s : Endpoints) (vmId : VmId) : Prop :=
  (∃ c ∈ s.connections, c.vmId = vmId ∧ c.guacConnectionName = "") ∧
    (∃ c ∈ s.connections, c.vmId ≠ vmId ∧ c.guacConnectionName = "") ∧
    ∃ row ∈ s.guac.connections, row.connectionName = ""

/-! ## The statements -/

section statements

variable {fails : DeletionPoint → Bool} {s : Endpoints} {point : DeletionPoint}

@[simp] theorem after_reachDeletion {Q : Except AppError Unit → Endpoints → Prop} :
    after (reachDeletion fails point) Q s ↔ (fails point = false → Q (.ok ()) s) ∧
        (fails point = true → Q (.error
          (AppError.external "Guacamole" "Failed to delete Guacamole connection")) s) := by
  simp [reachDeletion]

namespace Endpoints

@[simp] theorem mem_deleteRow {id : Nat} {c : EndpointRow} :
    c ∈ (s.deleteRow id).connections ↔ c ∈ s.connections ∧ c.id ≠ id := by
  simp [deleteRow]

@[simp] theorem mem_deleteConnection {name : String} {row : ConnectionRow} :
    row ∈ (s.deleteConnection name).guac.connections ↔
      row ∈ s.guac.connections ∧ row.connectionName ≠ name := by
  simp [deleteConnection, deleteConnections]

theorem isConnectionNameShared_eq_true {record : EndpointRow} :
    s.isConnectionNameShared record = true ↔ record.guacConnectionName ≠ "" ∧
      ∃ c ∈ s.connections, c.guacConnectionName = record.guacConnectionName ∧ c.id ≠ record.id := by
  by_cases hname : record.guacConnectionName = ""
  · simp [isConnectionNameShared, hname]
  · simp [isConnectionNameShared, hname, Table.mem_def]

end Endpoints

end statements

/-! ## One row -/

section record

variable {fails : DeletionPoint → Bool} {s : Endpoints}

theorem after_deleteConnectionRecord (id : Nat) :
    after (deleteConnectionRecord fails id) (fun _ s' => ∀ row, s.Deletes s' row →
      ∀ c ∈ s.connections, c.guacConnectionName = row.connectionName → c.id = id) s := by
  have hsame : ∀ row, s.Deletes s row → ∀ c ∈ s.connections,
      c.guacConnectionName = row.connectionName → c.id = id :=
    fun row hgone => absurd hgone.1 hgone.2
  simp only [deleteConnectionRecord, after_bind, after_reachDeletion, after_query]
  refine ⟨fun _ => ?_, fun _ => hsame⟩
  cases hfind : s.connections.find? id with
  | none => exact hsame
  | some record =>
      obtain rfl : record.id = id := Table.key_of_find? hfind
      simp only [after_bind, after_ite, after_reachDeletion, after_query, after_pure, after_write]
      refine ⟨fun _ => ⟨fun _ => ⟨fun _ => ⟨fun _ => hsame, fun _ => hsame⟩, fun hshared => ?_⟩,
        fun _ => hsame⟩, fun _ => ⟨fun _ => hsame, fun _ => hsame⟩⟩
      -- no other row carries the name, which is not empty
      have hown : ∀ row, s.Deletes (s.deleteConnection record.guacConnectionName) row →
          ∀ c ∈ s.connections, c.guacConnectionName = row.connectionName → c.id = record.id := by
        intro row hgone c hc hname
        have hrow : row.connectionName = record.guacConnectionName := by
          by_contra hne
          exact hgone.2 (Endpoints.mem_deleteConnection.mpr ⟨hgone.1, hne⟩)
        by_contra hid
        exact hshared (Endpoints.isConnectionNameShared_eq_true.mpr
          ⟨‹_›, c, hc, hname.trans hrow, hid⟩)
      exact ⟨fun _ => ⟨fun _ => hown, fun _ => hown⟩, fun _ => hsame⟩

end record

/-! ## The rows of a VM -/

structure Sweeping (vmId : VmId) (s₀ s : Endpoints) : Prop where
  /-- Only rows of the VM go. -/
  fewer : ∀ c ∈ s.connections, c ∈ s₀.connections
  others : ∀ c ∈ s₀.connections, c.vmId ≠ vmId → c ∈ s.connections
  guac : ∀ row ∈ s.guac.connections, row ∈ s₀.guac.connections
  /-- A connection that is gone has no row of another VM, unless it has no name. -/
  gone : ∀ row, s₀.Deletes s row → row.connectionName ≠ "" →
    ∀ c ∈ s₀.connections, c.guacConnectionName = row.connectionName → c.vmId = vmId
  unnamed : ∀ row, s₀.Deletes s row → row.connectionName = "" →
    ∃ c ∈ s₀.connections, c.vmId = vmId ∧ c.guacConnectionName = ""
  /-- A connection of the VM that is there has a row left, or one of another VM. -/
  kept : ∀ row ∈ s.guac.connections,
    (∃ c ∈ s₀.connections, c.vmId = vmId ∧ c.guacConnectionName = row.connectionName) →
      ∃ c ∈ s.connections, c.guacConnectionName = row.connectionName

section rounds

variable {fails : DeletionPoint → Bool} {vmId : VmId} {s₀ s : Endpoints} {record : EndpointRow}

theorem Sweeping.refl (vmId : VmId) (s : Endpoints) : Sweeping vmId s s := by
  refine ⟨fun _ hc => hc, fun _ hc _ => hc, fun _ hrow => hrow, fun _ hgone => absurd hgone.1 hgone.2,
    fun _ hgone => absurd hgone.1 hgone.2, ?_⟩
  rintro row - ⟨c, hc, -, hname⟩
  exact ⟨c, hc, hname⟩

theorem Sweeping.deleteRow (h : Sweeping vmId s₀ s) (hvm : record.vmId = vmId)
    (hmem : record ∈ s₀.connections)
    (hother : ∀ row ∈ s.guac.connections, row.connectionName = record.guacConnectionName →
      ∃ c ∈ s.connections, c.guacConnectionName = record.guacConnectionName ∧ c.id ≠ record.id) :
    Sweeping vmId s₀ (s.deleteRow record.id) := by
  refine ⟨fun c hc => h.fewer c (Endpoints.mem_deleteRow.mp hc).1, fun c hc hne => ?_, h.guac, h.gone,
    h.unnamed, fun row hrow howned => ?_⟩
  · refine Endpoints.mem_deleteRow.mpr ⟨h.others c hc hne, fun hid => hne ?_⟩
    rw [Table.eq_of_key_eq hc hmem hid, hvm]
  · obtain ⟨c, hc, hname⟩ := h.kept row hrow howned
    by_cases hid : c.id = record.id
    · -- the row is the one that goes, so another of its name is left
      obtain rfl : c = record := Table.eq_of_key_eq (h.fewer c hc) hmem hid
      obtain ⟨c', hc', hname', hid'⟩ := hother row hrow hname.symm
      exact ⟨c', Endpoints.mem_deleteRow.mpr ⟨hc', hid'⟩, hname'.trans hname⟩
    · exact ⟨c, Endpoints.mem_deleteRow.mpr ⟨hc, hid⟩, hname⟩

theorem Sweeping.deleteConnection (h : Sweeping vmId s₀ s) (hvm : record.vmId = vmId)
    (hmem : record ∈ s₀.connections) (hshared : s.isConnectionNameShared record ≠ true) :
    Sweeping vmId s₀ (s.deleteConnection record.guacConnectionName) := by
  have hgone : ∀ row, s₀.Deletes (s.deleteConnection record.guacConnectionName) row →
      s₀.Deletes s row ∨ row.connectionName = record.guacConnectionName := by
    intro row hgone
    by_cases hname : row.connectionName = record.guacConnectionName
    · exact .inr hname
    · exact .inl ⟨hgone.1, fun hrow => hgone.2 (Endpoints.mem_deleteConnection.mpr ⟨hrow, hname⟩)⟩
  refine ⟨h.fewer, h.others, fun row hrow => h.guac row (Endpoints.mem_deleteConnection.mp hrow).1,
    fun row hrow hne c hc hname => ?_, fun row hrow hempty => ?_, fun row hrow => ?_⟩
  · rcases hgone row hrow with hold | hown
    · exact h.gone row hold hne c hc hname
    · by_contra hother
      refine hshared (Endpoints.isConnectionNameShared_eq_true.mpr
        ⟨hown ▸ hne, c, h.others c hc hother, hname.trans hown, fun hid => hother ?_⟩)
      rw [Table.eq_of_key_eq hc hmem hid, hvm]
  · rcases hgone row hrow with hold | hown
    · exact h.unnamed row hold hempty
    · exact ⟨record, hmem, hvm, hown.symm.trans hempty⟩
  · exact h.kept row (Endpoints.mem_deleteConnection.mp hrow).1

theorem after_deleteVmConnection (h : Sweeping vmId s₀ s) (hvm : record.vmId = vmId)
    (hmem : record ∈ s₀.connections) :
    after (deleteVmConnection fails record) (fun r s' => Sweeping vmId s₀ s' ∧
      (∀ c : EndpointRow, c ∉ s.connections → c ∉ s'.connections) ∧
      (∀ row, row ∉ s.guac.connections → row ∉ s'.guac.connections) ∧
      (r = .ok ⟨⟩ → record ∉ s'.connections ∧ (record.guacConnectionName = "" →
        ∀ row ∈ s'.guac.connections, row.connectionName ≠ ""))) s := by
  have hfewer : ∀ c : EndpointRow, c ∉ s.connections → c ∉ (s.deleteRow record.id).connections :=
    fun c hc hdeleted => hc (Endpoints.mem_deleteRow.mp hdeleted).1
  have hgone : ∀ s' : Endpoints, record ∉ (s'.deleteRow record.id).connections :=
    fun s' hdeleted => (Endpoints.mem_deleteRow.mp hdeleted).2 rfl
  simp only [deleteVmConnection, after_bind, after_ite, after_reachDeletion, after_query,
    after_write]
  refine ⟨fun _ => ⟨fun hshared => ⟨fun _ => ?_, fun _ => ?_⟩, fun hshared => ⟨fun _ =>
    ⟨fun _ => ?_, fun _ => ?_⟩, fun _ => ?_⟩⟩, fun _ => ?_⟩
  · obtain ⟨hname, c, hc, hsame, hid⟩ := Endpoints.isConnectionNameShared_eq_true.mp hshared
    exact ⟨h.deleteRow hvm hmem fun _ _ _ => ⟨c, hc, hsame, hid⟩, hfewer, fun _ hrow => hrow,
      fun _ => ⟨hgone s, fun hempty => absurd hempty hname⟩⟩
  · exact ⟨h, fun _ hc => hc, fun _ hrow => hrow, fun hok => by cases hok⟩
  · have hdeleted := h.deleteConnection hvm hmem hshared
    refine ⟨hdeleted.deleteRow hvm hmem fun row hrow hname => ?_, hfewer,
      fun row hrow hkept => hrow (Endpoints.mem_deleteConnection.mp hkept).1,
      fun _ => ⟨hgone _, fun hempty row hrow => ?_⟩⟩
    · exact absurd hname (Endpoints.mem_deleteConnection.mp hrow).2
    · exact hempty ▸ (Endpoints.mem_deleteConnection.mp hrow).2
  · exact ⟨h.deleteConnection hvm hmem hshared, fun _ hc => hc,
      fun row hrow hkept => hrow (Endpoints.mem_deleteConnection.mp hkept).1, fun hok => by cases hok⟩
  · exact ⟨h, fun _ hc => hc, fun _ hrow => hrow, fun hok => by cases hok⟩
  · exact ⟨h, fun _ hc => hc, fun _ hrow => hrow, fun hok => by cases hok⟩

theorem after_deleteVmResources : after (deleteVmResources fails vmId) (fun r s' => Sweeping vmId s₀ s' ∧
      (r = .ok () → (∀ c ∈ s'.connections, c.vmId ≠ vmId) ∧
        ∀ c ∈ s₀.connections, c.vmId = vmId → c.guacConnectionName = "" →
          ∀ row ∈ s'.guac.connections, row.connectionName ≠ "")) s₀ := by
  simp only [deleteVmResources, after_bind, after_reachDeletion, after_query]
  refine ⟨fun _ => ?_, fun _ => ⟨.refl vmId s₀, fun hok => by cases hok⟩⟩
  refine after_mono (after_forM_each (I := Sweeping vmId s₀)
    (D := fun record s => record ∉ s.connections ∧ (record.guacConnectionName = "" →
      ∀ row ∈ s.guac.connections, row.connectionName ≠ "")) ?_ (.refl vmId s₀)) ?_
  · intro record hrecord s h
    obtain ⟨hmem, hvm⟩ := Endpoints.mem_listConnectionRecords.mp hrecord
    refine after_mono (after_deleteVmConnection h hvm hmem) ?_
    rintro r s' ⟨h', hfewer, hguac, hdone⟩
    refine ⟨h', fun y hy => ⟨hfewer y hy.1, fun hempty row hrow => ?_⟩, hdone⟩
    refine hy.2 hempty row ?_
    by_contra hnot
    exact hguac row hnot hrow
  · rintro r s' ⟨h, -, hdone⟩
    refine ⟨h, fun hok => ⟨fun c hc hvm => ?_, fun c hc hvm => ?_⟩⟩
    · have hlisted := Endpoints.mem_listConnectionRecords.mpr ⟨h.fewer c hc, hvm⟩
      exact (hdone hok c hlisted).1 hc
    · exact (hdone hok c (Endpoints.mem_listConnectionRecords.mpr ⟨hc, hvm⟩)).2

theorem after_deleteVmResources_ok (hcalm : ∀ point, fails point = false) :
    after (deleteVmResources fails vmId) (fun r _ => r = .ok ()) s := by
  simp only [deleteVmResources, after_bind, after_reachDeletion, after_query, hcalm, true_implies,
    Bool.false_eq_true, false_implies, and_true]
  refine after_forM_ok fun record _ s => ?_
  simp only [deleteVmConnection, after_bind, after_ite, after_reachDeletion, after_query,
    after_write, hcalm, true_implies, Bool.false_eq_true, false_implies, and_true]
  exact ⟨fun _ => trivial, fun _ => trivial⟩

end rounds

/-! ## Both deletions -/

structure KeepsShared (s : Endpoints) (vmId : VmId) : Prop where
  /-- A connection goes only with all the rows that refer to it. -/
  deletes : ∀ fails, after (deleteVmResources fails vmId) (fun _ s' => ∀ row, s.Deletes s' row →
    ∀ c ∈ s.connections, c.guacConnectionName = row.connectionName → c.vmId = vmId) s
  deletesRecord : ∀ fails id, after (deleteConnectionRecord fails id) (fun _ s' =>
    ∀ row, s.Deletes s' row →
      ∀ c ∈ s.connections, c.guacConnectionName = row.connectionName → c.id = id) s
  /-- After a success no row of the VM is left, and no connection that only its rows referred to. -/
  completes : ∀ fails, after (deleteVmResources fails vmId) (fun r s' => r = .ok () →
    (∀ c ∈ s'.connections, c.vmId ≠ vmId) ∧
      ∀ row ∈ s'.guac.connections,
        (∃ c ∈ s.connections, c.guacConnectionName = row.connectionName) →
          ∃ c ∈ s.connections, c.vmId ≠ vmId ∧ c.guacConnectionName = row.connectionName) s

/-- **Shared connections survive the deletion of a VM, except one without a name.**  For every
contents of the tables and whichever calls fail, `deleteVmResources` and
`deleteConnectionRecord` take a connection only with its last row, and the former leaves
nothing of the VM when it succeeds, if and only if the VM does not share with another VM an
empty name that Guacamole has a connection for. -/
theorem deletion_keeps_shared_iff (s : Endpoints) (vmId : VmId) :
    KeepsShared s vmId ↔ ¬ s.UnnamedShared vmId := by
  constructor
  · rintro hkeeps ⟨⟨c, hc, hvm, hname⟩, ⟨other, hother, hne, hname'⟩, row, hrow, hempty⟩
    -- without a failure the connection without a name goes, and the other VM has a row of it
    have hcalm : after (deleteVmResources (fun _ => false) vmId) (fun _ s' =>
        ∀ row ∈ s'.guac.connections, row.connectionName ≠ "") s := by
      have hspec := @after_deleteVmResources (fun _ => false) vmId s
      have hok : after (deleteVmResources (fun _ => false) vmId) (fun r _ => r = .ok ()) s :=
        after_deleteVmResources_ok fun _ => rfl
      exact (hspec.2 hok).2 c hc hvm hname
    have hgone : row ∉ (exec (deleteVmResources (fun _ => false) vmId) s).2.guac.connections :=
      fun hkept => hcalm row hkept hempty
    exact hne (hkeeps.deletes (fun _ => false) row ⟨hrow, hgone⟩ other hother
      (hname'.trans hempty.symm))
  · intro hunshared
    refine ⟨fun fails => ?_, fun fails id => after_deleteConnectionRecord id, fun fails => ?_⟩
    · refine after_mono (@after_deleteVmResources fails vmId s) ?_
      rintro r s' ⟨h, -⟩ row hgone c hc hname
      by_cases hempty : row.connectionName = ""
      · by_contra hother
        exact hunshared ⟨h.unnamed row hgone hempty, ⟨c, hc, hother, hname.trans hempty⟩, row,
          hgone.1, hempty⟩
      · exact h.gone row hgone hempty c hc hname
    · refine after_mono (@after_deleteVmResources fails vmId s) ?_
      rintro r s' ⟨h, hdone⟩ hok
      obtain ⟨hrows, -⟩ := hdone hok
      refine ⟨hrows, ?_⟩
      rintro row hrow ⟨c, hc, hname⟩
      by_cases hvm : c.vmId = vmId
      · obtain ⟨c', hc', hname'⟩ := h.kept row hrow ⟨c, hc, hvm, hname⟩
        exact ⟨c', h.fewer c' hc', hrows c' hc', hname'⟩
      · exact ⟨c, hc, hvm, hname⟩

def Endpoints.unnamed : Endpoints where
  connections := ⟨[⟨⟨30, .ssh, ""⟩, 1, "10.0.0.5"⟩, ⟨⟨31, .ssh, ""⟩, 2, "10.0.0.6"⟩], by decide⟩
  guac := { Store.empty with connections := ⟨[⟨Nat.succPNat 0, "", none, "ssh"⟩], by decide⟩ }

/-- Deleting VM 30 takes the connection that the row of VM 31 refers to. -/
theorem deleteVmResources_unnamed : ¬ KeepsShared Endpoints.unnamed 30 ∧
    (⟨⟨31, .ssh, ""⟩, 2, "10.0.0.6"⟩ : EndpointRow) ∈
      (exec (deleteVmResources (fun _ => false) 30) Endpoints.unnamed).2.connections ∧
    (exec (deleteVmResources (fun _ => false) 30) Endpoints.unnamed).2.guac.connections.rows = [] := by
  have hcalm : ∀ row, Endpoints.unnamed.Deletes
      (exec (deleteVmResources (fun _ => false) 30) Endpoints.unnamed).2 row ↔
        row = ⟨1, "", none, "ssh"⟩ := by
    intro row
    rw [Endpoints.Deletes]
    constructor
    · rintro ⟨hrow, -⟩
      exact List.mem_singleton.mp hrow
    · rintro rfl
      exact ⟨by decide, by decide⟩
  refine ⟨fun hkeeps => ?_, by decide, by decide⟩
  have hown := hkeeps.deletes (fun _ => false) ⟨1, "", none, "ssh"⟩ ((hcalm _).mpr rfl)
    ⟨⟨31, .ssh, ""⟩, 2, "10.0.0.6"⟩ (by decide) rfl
  exact absurd hown (by decide)

end ProxVM
