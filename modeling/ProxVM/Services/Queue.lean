import ProxVM.Db.Schema

/-!
# The provisioning queue

What `services/queue.ts` uses of BullMQ.  A queue stores entries under their job
id.  An entry waits (or is delayed), is held by a worker, or is finished and kept
for a while (`removeOnComplete`, `removeOnFail`).  The id `db-<jobDbId>-a<attempt>`
determines the payload, so an entry is its id and its state.

Adding an id that is still stored, in whatever state, adds nothing.
-/

namespace ProxVM

open Tables

inductive EntryState
  | queued
  | active
  | finished
  deriving DecidableEq, Repr

structure QueueEntry where
  id : BullJobId
  state : EntryState
  deriving DecidableEq, Repr

abbrev Queue := Table QueueEntry.id

namespace Queue

variable {q : Queue} {bull bull' : BullJobId}

def state? (q : Queue) (bull : BullJobId) : Option EntryState :=
  (q.find? bull).map QueueEntry.state

/-- `queue.add`: a stored id is left as it is. -/
def add (q : Queue) (bull : BullJobId) : Queue :=
  match q.insert? ⟨bull, .queued⟩ with
  | some q' => q'
  | none => q

/-- `job.remove()`: an entry held by a worker stays. -/
def remove (q : Queue) (bull : BullJobId) : Queue :=
  q.deleteWhere fun e => decide (e.id = bull) && decide (e.state ≠ .active)

def move (q : Queue) (bull : BullJobId) (source target : EntryState) : Queue :=
  q.updateWhere (fun e => decide (e.id = bull) && decide (e.state = source))
    (fun e => { e with state := target }) fun _ => rfl

def evict (q : Queue) (bull : BullJobId) : Queue :=
  q.deleteWhere fun e => decide (e.id = bull) && decide (e.state = .finished)

theorem state?_add : (q.add bull).state? bull' =
    if bull' = bull ∧ q.state? bull = none then some .queued else q.state? bull' := by
  unfold add
  cases hins : q.insert? ⟨bull, .queued⟩ with
  | none =>
      have hstored : q.state? bull ≠ none := by
        intro hnone
        have hfind : q.find? bull = none := Option.map_eq_none_iff.mp hnone
        obtain ⟨q', hq'⟩ := Table.insert?_isSome (t := q) (r := ⟨bull, .queued⟩)
          (Table.find?_eq_none_iff.mp hfind)
        rw [hins] at hq'
        cases hq'
      simp [hstored]
  | some q' =>
      obtain ⟨hfresh, hmem⟩ := Table.insert?_eq_some hins
      have hnone : q.state? bull = none :=
        Option.map_eq_none_iff.mpr (Table.find?_eq_none_iff.mpr hfresh)
      by_cases hsame : bull' = bull
      · subst hsame
        have hfind : q'.find? bull' = some ⟨bull', .queued⟩ :=
          Table.find?_eq_some_iff.mpr ⟨(hmem _).mpr (Or.inr rfl), rfl⟩
        rw [if_pos ⟨rfl, hnone⟩, state?, hfind]
        rfl
      · have hfind : q'.find? bull' = q.find? bull' := by
          refine Table.find?_congr fun e hkey => ?_
          rw [hmem]
          constructor
          · rintro (hold | rfl)
            · exact hold
            · exact absurd hkey.symm hsame
          · exact Or.inl
        simp [state?, hfind, hsame]

theorem state?_deleteWhere {p : QueueEntry → Bool} : Queue.state? (q.deleteWhere p) bull' =
    (q.state? bull').filter fun state => !p ⟨bull', state⟩ := by
  unfold state?
  rw [Table.find?_deleteWhere]
  cases hfind : q.find? bull' with
  | none => rfl
  | some e =>
      obtain rfl : e.id = bull' := Table.key_of_find? hfind
      by_cases hp : p e
      · simp [Option.filter, hp]
      · simp [Option.filter, hp]

theorem state?_remove_of_ne (hne : bull' ≠ bull) : (q.remove bull).state? bull' = q.state? bull' := by
  rw [remove, state?_deleteWhere]
  cases q.state? bull' with
  | none => rfl
  | some state => simp [hne, Option.filter]

theorem state?_evict {state : EntryState} (hstate : q.state? bull' = some state)
    (hlive : state ≠ .finished) : (q.evict bull).state? bull' = some state := by
  simp [evict, state?_deleteWhere, hstate, hlive]

theorem state?_move {source target : EntryState} : (q.move bull source target).state? bull' =
    if bull' = bull ∧ q.state? bull' = some source then some target else q.state? bull' := by
  unfold state? move
  rw [Table.find?_updateWhere]
  cases hfind : q.find? bull' with
  | none => simp
  | some e =>
      obtain rfl : e.id = bull' := Table.key_of_find? hfind
      by_cases hsame : e.id = bull
      · by_cases hsource : e.state = source
        · simp [hsame, hsource]
        · simp [hsame, hsource]
      · simp [hsame]

end Queue

end ProxVM
