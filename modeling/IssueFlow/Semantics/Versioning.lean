import IssueFlow.Semantics.Interleaving

/-!
# Versioned rows

Rows have a key that is drawn from a counter and never used again, and a
version that starts at 1. An operation raises the version of a row by one, and
then it is called a write of that row, or it leaves the version, or it removes
the row. Over any interleaving a version is then one more than the number of
writes so far, so a version is written over at most once.

## Main definitions

* `VersionedRows` — versions and the operations that raise them
* `VersionedRows.count` — the number of writes of a row in a trace

## Main results

* `VersionedRows.version_eq_count` — a version counts the writes of its row
* `VersionedRows.write_unique` — no two writes of a row find the same version
-/

namespace IssueFlow.Semantics

universe u

variable {Op : Type u} {Ans : Op → Type} {ε ρ σ ι ν : Type}
  {exec : (op : Op) → σ → Ans op × σ} {env : ν → σ → σ}

/-- The versions of rows, the next key, and the operations that write a row. -/
structure VersionedRows (exec : (op : Op) → σ → Ans op × σ) (env : ν → σ → σ) where
  version : σ → ℕ → Option ℕ
  next : σ → ℕ
  writes : ℕ → Event Op σ → Bool
  /-- A key that has not been drawn has no row. -/
  fresh : ∀ state id, next state ≤ id → version state id = none
  drawn : ∀ op state, next state ≤ next (exec op state).2
  created : ∀ op state id v, version state id = none → version (exec op state).2 id = some v →
    v = 1 ∧ next state ≤ id
  /-- A row that stays has been written or it keeps its version. -/
  stepped : ∀ op state id v v', version state id = some v →
    version (exec op state).2 id = some v' → v' = v + if writes id ⟨op, state⟩ then 1 else 0
  /-- Only a row that is there is written. -/
  present : ∀ op state id, writes id ⟨op, state⟩ = true → version state id ≠ none
  env_version : ∀ e state, version (env e state) = version state
  env_next : ∀ e state, next (env e state) = next state

namespace VersionedRows

variable (rows : VersionedRows exec env) {id : ℕ} {state : σ} {trace : List (ι × Event Op σ)}

/-- How often a row was written. -/
def count (id : ℕ) (trace : List (ι × Event Op σ)) : ℕ :=
  trace.countP fun entry => rows.writes id entry.2

@[simp] theorem count_cons (entry : ι × Event Op σ) :
    rows.count id (entry :: trace) =
      rows.count id trace + if rows.writes id entry.2 then 1 else 0 := by
  simp [count, List.countP_cons]

theorem count_append (newer : List (ι × Event Op σ)) :
    rows.count id (newer ++ trace) = rows.count id newer + rows.count id trace :=
  List.countP_append

theorem count_le {older : List (ι × Event Op σ)} (suffix : older <:+ trace) :
    rows.count id older ≤ rows.count id trace :=
  suffix.sublist.countP_le

/-- The versions count the writes of the trace, and no key beyond the counter
was ever written. -/
structure Counted (state : σ) (trace : List (ι × Event Op σ)) : Prop where
  version : ∀ id v, rows.version state id = some v → v = 1 + rows.count id trace
  fresh : ∀ id, rows.next state ≤ id → rows.count id trace = 0

variable {rows}

/-- One operation. -/
theorem Counted.step (counted : rows.Counted state trace) (thread : ι) (op : Op) :
    rows.Counted (exec op state).2 ((thread, ⟨op, state⟩) :: trace) where
  version id v' stored' := by
    rw [count_cons]
    cases stored : rows.version state id with
    | none =>
        obtain ⟨rfl, beyond⟩ := rows.created op state id v' stored stored'
        have silent : rows.writes id ⟨op, state⟩ = false := by
          by_contra writes
          exact rows.present op state id (by simpa using writes) stored
        simp [counted.fresh id beyond, silent]
    | some v =>
        rw [rows.stepped op state id v v' stored stored', counted.version id v stored,
          Nat.add_assoc]
  fresh id beyond := by
    have before : rows.next state ≤ id := Nat.le_trans (rows.drawn op state) beyond
    have silent : rows.writes id ⟨op, state⟩ = false := by
      by_contra writes
      exact rows.present op state id (by simpa using writes) (rows.fresh state id before)
    simp [counted.fresh id before, silent]

/-- The environment. -/
theorem Counted.change (counted : rows.Counted state trace) (e : ν) :
    rows.Counted (env e state) trace where
  version id v stored := by
    rw [rows.env_version] at stored
    exact counted.version id v stored
  fresh id beyond := by
    rw [rows.env_next] at beyond
    exact counted.fresh id beyond

/-! ### Runs -/

section Run

variable [DecidableEq ι] {programs : ι → Program Op Ans ε ρ}

open Config

/-- What holds after every run from a state without rows: the versions count
the writes, now and whenever an operation was executed. -/
theorem counted_play (empty : ∀ id, rows.version state id = none) (turns : List (Turn ι ν)) :
    let c := (start state programs).play exec env turns
    rows.Counted c.state c.trace ∧
      ∀ newer entry older, c.trace = newer ++ entry :: older →
        rows.Counted entry.2.state older := by
  refine play_invariant (fun c => rows.Counted c.state c.trace ∧
    ∀ newer entry older, c.trace = newer ++ entry :: older →
      rows.Counted entry.2.state older) turns ?_ ?_
  · refine ⟨⟨fun id v stored => ?_, fun _ _ => rfl⟩, fun newer entry older split => ?_⟩
    · rw [show (start state programs).state = state from rfl, empty] at stored
      cases stored
    · simp [start] at split
  · rintro c turn ⟨counted, recorded⟩
    obtain pass | ⟨thread, op, next, -, -, sent⟩ | ⟨e, -, changed⟩ := turn_cases exec env c turn
    · rw [pass]
      exact ⟨counted, recorded⟩
    · rw [sent]
      refine ⟨counted.step thread op, fun newer entry older split => ?_⟩
      -- The newest entry found the state before this turn.
      rcases List.cons_eq_append_iff.mp split with ⟨-, newest⟩ | ⟨newer, -, earlier⟩
      · obtain ⟨rfl, rfl⟩ := List.cons.inj newest
        exact counted
      · exact recorded newer entry older earlier
    · rw [changed]
      exact ⟨counted.change e, recorded⟩

/-- **A version counts the writes of its row.** -/
theorem version_eq_count (empty : ∀ id, rows.version state id = none) (turns : List (Turn ι ν))
    {v : ℕ} (stored : rows.version ((start state programs).play exec env turns).state id = some v) :
    v = 1 + rows.count id ((start state programs).play exec env turns).trace :=
  (counted_play empty turns).1.version id v stored

/-- A write finds the version that counts the writes before it. -/
theorem version_at_write (empty : ∀ id, rows.version state id = none) (turns : List (Turn ι ν))
    {newer older : List (ι × Event Op σ)} {entry : ι × Event Op σ} {v : ℕ}
    (split : ((start state programs).play exec env turns).trace = newer ++ entry :: older)
    (found : rows.version entry.2.state id = some v) : v = 1 + rows.count id older :=
  ((counted_play empty turns).2 newer entry older split).version id v found

/-- **No two writes of a row find the same version.** -/
theorem write_unique (empty : ∀ id, rows.version state id = none) (turns : List (Turn ι ν))
    {first second : ι × Event Op σ} {v : ℕ}
    (executed : first ∈ ((start state programs).play exec env turns).trace)
    (executed' : second ∈ ((start state programs).play exec env turns).trace)
    (writes : rows.writes id first.2 = true) (writes' : rows.writes id second.2 = true)
    (found : rows.version first.2.state id = some v)
    (found' : rows.version second.2.state id = some v) : first = second := by
  -- Of two entries, the newer one finds a version that counts the older one.
  have newer_finds_more {first second : ι × Event Op σ} {newer older : List (ι × Event Op σ)}
      (split : ((start state programs).play exec env turns).trace = newer ++ first :: older)
      (earlier : second ∈ older) (writes' : rows.writes id second.2 = true)
      (found : rows.version first.2.state id = some v)
      (found' : rows.version second.2.state id = some v) : False := by
    have count_first := version_at_write empty turns split found
    obtain ⟨between, oldest, rfl⟩ := List.append_of_mem earlier
    have split' : ((start state programs).play exec env turns).trace =
        (newer ++ first :: between) ++ second :: oldest := by
      rw [split]
      simp
    have count_second := version_at_write empty turns split' found'
    rw [count_append, count_cons, if_pos writes'] at count_first
    omega
  obtain ⟨newer, older, split⟩ := List.append_of_mem executed
  rw [split] at executed'
  rcases List.mem_append.mp executed' with later | here
  · obtain ⟨newest, between, rfl⟩ := List.append_of_mem later
    have split' : ((start state programs).play exec env turns).trace =
        newest ++ second :: (between ++ first :: older) := by
      rw [split]
      simp
    exact (newer_finds_more split' (by simp) writes found' found).elim
  · rcases List.mem_cons.mp here with same | earlier
    · exact same.symm
    · exact (newer_finds_more split earlier writes' found found').elim

end Run

end VersionedRows

end IssueFlow.Semantics
