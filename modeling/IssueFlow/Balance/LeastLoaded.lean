import Mathlib.Data.Int.CardIntervalMod
import Mathlib.Data.Prod.Lex

/-!
# Least-loaded assignment

Tasks are handed out one after the other, each to a worker that carries least at
that time. The loads then never drift further apart than they were, or than one
task. If ties are broken by rank and the loads are equal at the start, the
workers are served in turn.

## Main definitions

* `LeastLoaded` — nobody carries less
* `Preferred` — least load first, least rank among equals
* `Within` — no two loads are further apart than a bound
* `Handout` — a run: every task goes to a worker that is chosen at that time

## Main results

* `Handout.within` — the loads stay together
* `Handout.roundRobin` — the workers are served in turn
-/

namespace IssueFlow.Balance

variable {ω ρ : Type} [DecidableEq ω] {workers : List ω} {w : ω} {load load' : ω → ℕ} {d : ℕ}

/-- A worker that nobody carries less than. -/
def LeastLoaded (workers : List ω) (load : ω → ℕ) (w : ω) : Prop :=
  w ∈ workers ∧ ∀ v ∈ workers, load w ≤ load v

/-- A worker of least load, and of least rank among those. -/
def Preferred [LinearOrder ρ] (workers : List ω) (rank : ω → ρ) (load : ω → ℕ) (w : ω) : Prop :=
  w ∈ workers ∧ ∀ v ∈ workers, toLex (load w, rank w) ≤ toLex (load v, rank v)

/-- A worker takes one more task. -/
def Takes (workers : List ω) (w : ω) (load load' : ω → ℕ) : Prop :=
  ∀ v ∈ workers, load' v = if v = w then load v + 1 else load v

/-- No two loads are further apart than `d`. -/
def Within (d : ℕ) (workers : List ω) (load : ω → ℕ) : Prop :=
  ∀ v ∈ workers, ∀ w ∈ workers, load v ≤ load w + d

/-- Tasks are handed out to the listed workers, who are chosen by the loads at
that time. -/
inductive Handout (workers : List ω) (chosen : (ω → ℕ) → ω → Prop) :
    (ω → ℕ) → List ω → (ω → ℕ) → Prop
  | nil (load : ω → ℕ) : Handout workers chosen load [] load
  | cons {load next last : ω → ℕ} {w : ω} {tasks : List ω} (choice : chosen load w)
      (takes : Takes workers w load next) (rest : Handout workers chosen next tasks last) :
      Handout workers chosen load (w :: tasks) last

omit [DecidableEq ω] in
theorem Preferred.leastLoaded [LinearOrder ρ] {rank : ω → ρ}
    (preferred : Preferred workers rank load w) : LeastLoaded workers load w :=
  ⟨preferred.1, fun v member => Prod.Lex.monotone_fst _ _ (preferred.2 v member)⟩

theorem Handout.mono {chosen chosen' : (ω → ℕ) → ω → Prop}
    (weaker : ∀ load w, chosen load w → chosen' load w) {tasks : List ω}
    (handout : Handout workers chosen load tasks load') :
    Handout workers chosen' load tasks load' := by
  induction handout with
  | nil load => exact .nil load
  | cons choice takes _ ih => exact .cons (weaker _ _ choice) takes ih

/-! ### Loads that stay together -/

/-- One more task for a worker of least load. -/
theorem Within.takes (within : Within d workers load) (positive : 1 ≤ d)
    (least : LeastLoaded workers load w) (takes : Takes workers w load load') :
    Within d workers load' := by
  intro first firstMember second secondMember
  rw [takes first firstMember, takes second secondMember]
  have apart := within first firstMember second secondMember
  split_ifs with isFirst isSecond
  · omega
  · -- The worker that takes the task was not above the other one.
    have below := least.2 second secondMember
    subst isFirst
    omega
  · omega
  · exact apart

/-- **The loads stay together**: they are never further apart than at the start,
or than one task. -/
theorem Handout.within {tasks : List ω}
    (handout : Handout workers (LeastLoaded workers) load tasks load')
    (within : Within d workers load) : Within (max 1 d) workers load' := by
  have start : Within (max 1 d) workers load := fun v member w member' =>
    (within v member w member').trans (Nat.add_le_add_left (le_max_right _ _) _)
  clear within
  induction handout with
  | nil load => exact start
  | cons least takes _ ih => exact ih (start.takes (le_max_left _ _) least takes)

/-! ### Workers that are served in turn -/

section RoundRobin

variable [LinearOrder ρ] {rank : ω → ρ} {base count : ℕ}

/-- The loads after `count` tasks that were handed out in turn. -/
def InTurn (workers : List ω) (base count : ℕ) (load : ω → ℕ) : Prop :=
  ∀ (i : ℕ) (bound : i < workers.length),
    load workers[i] = base + count.count (· ≡ i [MOD workers.length])

omit [DecidableEq ω] in
/-- How often a worker has been served. -/
theorem InTurn.load_eq (inTurn : InTurn workers base count load) {i : ℕ}
    (bound : i < workers.length) :
    load workers[i] = base + count / workers.length +
      if i < count % workers.length then 1 else 0 := by
  rw [inTurn i bound, Nat.count_modEq_card _ (Nat.zero_lt_of_lt bound), Nat.mod_eq_of_lt bound,
    Nat.add_assoc]

omit [DecidableEq ω] in
/-- Equal loads are the start. -/
theorem InTurn.zero (equal : ∀ v ∈ workers, load v = base) : InTurn workers base 0 load :=
  fun i bound => by rw [equal _ (List.getElem_mem bound), Nat.count_zero, Nat.add_zero]

/-- The worker whose turn it is is the preferred one. -/
theorem InTurn.preferred_eq (inTurn : InTurn workers base count load)
    (ascending : workers.Pairwise fun v w => rank v < rank w)
    (preferred : Preferred workers rank load w) :
    workers[count % workers.length]? = some w := by
  obtain ⟨member, least⟩ := preferred
  obtain ⟨i, bound, rfl⟩ := List.mem_iff_getElem.mp member
  have positive := Nat.zero_lt_of_lt bound
  have turn := Nat.mod_lt count positive
  have load_i := inTurn.load_eq bound
  have load_turn := inTurn.load_eq turn
  rw [if_neg (Nat.lt_irrefl _)] at load_turn
  have order := Prod.Lex.toLex_le_toLex.mp (least _ (List.getElem_mem turn))
  rw [List.getElem?_eq_getElem turn]
  -- Whoever comes earlier has one task more, whoever comes later has a higher rank.
  rcases Nat.lt_trichotomy i (count % workers.length) with earlier | same | later
  · rw [if_pos earlier] at load_i
    rcases order with less | ⟨equal, -⟩
    · omega
    · omega
  · simp only [same]
  · have higher := List.pairwise_iff_getElem.mp ascending _ _ turn bound later
    rcases order with less | ⟨-, lower⟩
    · omega
    · exact absurd higher (not_lt.mpr lower)

/-- One more task for the worker whose turn it is. -/
theorem InTurn.takes (inTurn : InTurn workers base count load) (distinct : workers.Nodup)
    (turn : workers[count % workers.length]? = some w) (takes : Takes workers w load load') :
    InTurn workers base (count + 1) load' := by
  intro i bound
  obtain ⟨turnBound, rfl⟩ := List.getElem?_eq_some_iff.mp turn
  have here : workers[i] = workers[count % workers.length] ↔
      count ≡ i [MOD workers.length] := by
    rw [distinct.getElem_inj_iff, Nat.ModEq, Nat.mod_eq_of_lt bound, eq_comm]
  rw [takes _ (List.getElem_mem bound), inTurn i bound, Nat.count_succ, if_congr here rfl rfl]
  split_ifs <;> rfl

/-- **The workers are served in turn**: task `i` goes to worker `i mod n`. -/
theorem Handout.roundRobin {tasks : List ω}
    (handout : Handout workers (Preferred workers rank) load tasks load')
    (ascending : workers.Pairwise fun v w => rank v < rank w)
    (inTurn : InTurn workers base count load) :
    (∀ (i : ℕ) (bound : i < tasks.length),
        workers[(count + i) % workers.length]? = some tasks[i]) ∧
      InTurn workers base (count + tasks.length) load' := by
  have distinct : workers.Nodup := ascending.imp fun {_ _} less same => less.ne (congrArg rank same)
  induction handout generalizing count with
  | nil load => exact ⟨fun i bound => absurd bound (Nat.not_lt_zero i), inTurn⟩
  | @cons load next last w tasks preferred takes rest ih =>
      have turn := inTurn.preferred_eq ascending preferred
      obtain ⟨later, final⟩ := ih (inTurn.takes distinct turn takes)
      refine ⟨?_, ?_⟩
      · rintro (_ | i) bound
        · exact turn
        · have step := later i (Nat.lt_of_succ_lt_succ bound)
          rwa [Nat.add_assoc, Nat.add_comm 1 i] at step
      · rwa [List.length_cons, Nat.add_comm tasks.length 1, ← Nat.add_assoc]

end RoundRobin

end IssueFlow.Balance
