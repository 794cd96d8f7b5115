import IssueFlow.Database.Transitions

/-!
# What a statement does to the users

A user's name never changes, and a new user's name is taken only if no stored
name equals it case-insensitively. So a name finds at most one user.

## Main definitions

* `UsernamesUnique` — no two users share a name case-insensitively

## Main results

* `users_of_exec` — where a stored user comes from
* `usernamesUnique_exec` — statements keep names unique
* `findByUsername_eq_some_iff` — lookup by a unique name
-/

namespace IssueFlow

open Store Semantics

variable [Postgres] {statement : Statement} {db : Db} {row : UserRow}

/-- No two users share a name case-insensitively. -/
def UsernamesUnique (db : Db) : Prop :=
  ∀ user ∈ db.users.rows, ∀ other ∈ db.users.rows,
    Postgres.lower user.username = Postgres.lower other.username → user.id = other.id

/-- The user was stored under the same name. -/
def IsStoredName (db : Db) (row : UserRow) : Prop :=
  ∃ old ∈ db.users.rows, old.id = row.id ∧ old.username = row.username

omit [Postgres] in
theorem isStoredName_of_mem (member : row ∈ db.users.rows) : IsStoredName db row :=
  ⟨row, member, rfl, rfl⟩

/-- The other writes leave the users alone. -/
private theorem users_of_untouched {write : Command}
    (untouched : TableName.users ∉ write.tables) :
    (exec (.command write) db).2.users = db.users :=
  (Command.exec_sameOutside write db).users untouched

/-- A stored user was stored under the same name before, or is new and has a
name that no stored user has. -/
theorem users_of_exec (member : row ∈ (exec statement db).2.users.rows) :
    IsStoredName db row ∨ (exec statement db).2.users.rows = db.users.rows ++ [row] ∧
      ∀ other ∈ db.users.rows, Postgres.lower other.username ≠ Postgres.lower row.username := by
  cases statement with
  | select read => exact .inl (isStoredName_of_mem member)
  | command write =>
      cases write with
      | createUser input =>
          simp only [exec, Command.exec, UsersRepository.create] at member ⊢
          split_ifs at member ⊢ with taken
          · exact .inl (isStoredName_of_mem member)
          · rcases List.mem_append.mp member with old | new
            · exact .inl (isStoredName_of_mem old)
            · -- A name that differs in case only would have clashed.
              obtain rfl := List.mem_singleton.mp new
              refine .inr ⟨rfl, fun other otherMember same => taken ?_⟩
              refine List.any_eq_true.mpr ⟨other, otherMember, ?_⟩
              have equal : Postgres.lower other.username = Postgres.lower input.username := same
              simp [UsersRepository.clashes, equal]
      | updateUser id input =>
          left
          simp only [exec, Command.exec] at member
          rcases UsersRepository.update_cases id input db with same | ⟨old, found, written⟩
          · rw [same] at member
            exact isStoredName_of_mem member
          · rw [written] at member
            rcases Table.mem_set member with kept | ⟨rfl, -⟩
            · exact isStoredName_of_mem kept
            · -- An update writes neither the key nor the name.
              exact ⟨old, Table.mem_of_get? found, rfl, rfl⟩
      | deleteUser id =>
          left
          simp only [exec, Command.exec] at member
          rcases UsersRepository.delete_cases id db with same | ⟨-, executed⟩
          · rw [same] at member
            exact isStoredName_of_mem member
          · rw [executed] at member
            exact isStoredName_of_mem (List.mem_filter.mp member).1
      | _ =>
          rw [users_of_untouched (by simp [Command.tables])] at member
          exact .inl (isStoredName_of_mem member)

/-- **Names stay unique.** -/
theorem usernamesUnique_exec (statement : Statement) (unique : UsernamesUnique db) :
    UsernamesUnique (exec statement db).2 := by
  intro user member other otherMember same
  rcases users_of_exec member with ⟨old, oldMember, id, name⟩ | ⟨appended, fresh⟩
  · rcases users_of_exec otherMember with ⟨old', oldMember', id', name'⟩ | ⟨-, fresh'⟩
    · rw [← id, ← id']
      exact unique old oldMember old' oldMember' (by rw [name, name', same])
    · exact absurd (name ▸ same) (fresh' old oldMember)
  · rcases users_of_exec otherMember with ⟨old', oldMember', id', name'⟩ | ⟨appended', -⟩
    · exact absurd (name' ▸ same.symm) (fresh old' oldMember')
    · have last : [user] = [other] := List.append_cancel_left (appended.symm.trans appended')
      rw [List.singleton_inj.mp last]

/-- Keys of users are drawn forward. -/
theorem next_users_le (statement : Statement) (db : Db) :
    db.users.next ≤ (exec statement db).2.users.next := by
  cases statement with
  | select read => exact le_rfl
  | command write =>
      cases write with
      | createUser input =>
          simp only [exec, Command.exec, UsersRepository.create]
          split_ifs
          · exact Nat.le_succ _
          · exact Nat.le_succ _
      | updateUser id input =>
          simp only [exec, Command.exec]
          rcases UsersRepository.update_cases id input db with same | ⟨old, -, written⟩
          · rw [same]
          · rw [written]
            exact le_rfl
      | deleteUser id =>
          simp only [exec, Command.exec]
          rcases UsersRepository.delete_cases id db with same | ⟨-, executed⟩
          · rw [same]
          · rw [executed]
            exact le_rfl
      | _ => rw [users_of_untouched (by simp [Command.tables])]

/-- A stored user was stored before or has a key that was not drawn before. -/
theorem user_stored_or_fresh {id : ℕ} (stored : ((exec statement db).2.users.get? id).isSome) :
    (db.users.get? id).isSome ∨ db.users.next ≤ id := by
  cases statement with
  | select read => exact .inl stored
  | command write =>
      cases write with
      -- Only a registration draws a key.
      | createUser input =>
          have keyed : ∀ id, Keyed.key (UsersRepository.createdRow input db.now id) = id :=
            fun _ => rfl
          have inserted : (db.users.insert _ keyed).get? id = _ := Table.get?_insert _ keyed
          simp only [exec, Command.exec, UsersRepository.create] at stored
          split_ifs at stored
          · exact .inl stored
          · by_cases fresh : id = db.users.next
            · exact .inr fresh.ge
            · rw [if_neg fresh] at inserted
              exact .inl ((congrArg Option.isSome inserted).symm.trans stored)
      | updateUser target input =>
          simp only [exec, Command.exec] at stored
          rcases UsersRepository.update_cases target input db with same | ⟨old, -, written⟩
          · exact .inl (same ▸ stored)
          · rw [written, Table.get?_set] at stored
            split_ifs at stored
            · exact .inl (by rwa [Option.isSome_map] at stored)
            · exact .inl stored
      | deleteUser target =>
          simp only [exec, Command.exec] at stored
          rcases UsersRepository.delete_cases target db with same | ⟨-, executed⟩
          · exact .inl (same ▸ stored)
          · rw [executed, Table.get?_remove] at stored
            obtain ⟨user, kept⟩ := Option.isSome_iff_exists.mp stored
            exact .inl (Option.isSome_of_mem (Option.filter_eq_some_iff.mp kept).1)
      | _ =>
          rw [users_of_untouched (by simp [Command.tables])] at stored
          exact .inl stored

/-- A name finds the one user who has it. -/
theorem findByUsername_eq_some_iff (unique : UsernamesUnique db) {username : String} :
    UsersRepository.findByUsername username db = some row ↔
      row ∈ db.users.rows ∧ Postgres.lower row.username = Postgres.lower username := by
  constructor
  · intro found
    exact ⟨List.mem_of_find?_eq_some found, by simpa using List.find?_some found⟩
  · rintro ⟨member, same⟩
    cases found : UsersRepository.findByUsername username db with
    | none => exact absurd same (by simpa using List.find?_eq_none.mp found row member)
    | some other =>
        have otherMember : other ∈ db.users.rows := List.mem_of_find?_eq_some found
        have otherName : Postgres.lower other.username = Postgres.lower username := by
          simpa using List.find?_some found
        have id : row.id = other.id :=
          unique row member other otherMember (same.trans otherName.symm)
        rw [Table.eq_of_key_eq otherMember member id.symm]

end IssueFlow
