import IssueFlow.Database.Transitions

/-!
# The deny list

Where a row of `token_denylist` comes from, and the one thing that removes it:
deleting the user it refers to.

## Main results

* `denylist_of_exec` — rows are inserted by a logout
* `denylist_exec` — rows are removed with their user
-/

namespace IssueFlow

open Store Semantics

variable [Postgres] {statement : Statement} {db : Db} {row : DenylistRow}

theorem now_exec (statement : Statement) (db : Db) : (exec statement db).2.now = db.now := by
  cases statement with
  | select read => rfl
  | command write => exact (Command.exec_sameOutside write db).now

/-- The other writes leave the deny list alone. -/
private theorem denylist_of_untouched {write : Command}
    (untouched : TableName.tokenDenylist ∉ write.tables) :
    (exec (.command write) db).2.tokenDenylist = db.tokenDenylist :=
  (Command.exec_sameOutside write db).tokenDenylist untouched

/-- A row that a statement leaves behind was there, or the statement is the
INSERT of a logout. -/
theorem denylist_of_exec (member : row ∈ (exec statement db).2.tokenDenylist) :
    row ∈ db.tokenDenylist ∨
      statement = .command (.revoke row.jti row.userId row.expiresAt) := by
  cases statement with
  | select read => exact .inl member
  | command write =>
      cases write with
      | deleteUser id =>
          simp only [exec, Command.exec] at member
          -- ON DELETE CASCADE only removes rows.
          rcases UsersRepository.delete_cases id db with same | ⟨-, executed⟩
          · rw [same] at member
            exact .inl member
          · rw [executed] at member
            exact .inl (List.mem_filter.mp member).1
      | revoke jti userId expiresAt =>
          simp only [exec, Command.exec, TokenDenylistRepository.revoke] at member
          -- ON CONFLICT DO NOTHING, the new row, and a foreign key that fails.
          split_ifs at member
          · exact .inl member
          · rcases List.mem_append.mp member with old | new
            · exact .inl old
            · obtain rfl := List.mem_singleton.mp new
              exact .inr rfl
          · exact .inl member
      | _ =>
          rw [denylist_of_untouched (by simp [Command.tables])] at member
          exact .inl member

/-- A row stays, unless the statement deletes its user, to whom no row refers
that would forbid it. -/
theorem denylist_exec (statement : Statement) (member : row ∈ db.tokenDenylist) :
    row ∈ (exec statement db).2.tokenDenylist ∨
      statement = .command (.deleteUser row.userId) ∧
        UsersRepository.isReferenced db row.userId = false := by
  cases statement with
  | select read => exact .inl member
  | command write =>
      cases write with
      | deleteUser id =>
          simp only [exec, Command.exec]
          rcases UsersRepository.delete_cases id db with same | ⟨unreferenced, executed⟩
          · rw [same]
            exact .inl member
          · -- `ON DELETE CASCADE` takes the tokens of this user only.
            by_cases own : row.userId = id
            · subst own
              exact .inr ⟨rfl, unreferenced⟩
            · rw [executed]
              exact .inl (List.mem_filter.mpr ⟨member, by simpa using own⟩)
      | revoke jti userId expiresAt =>
          simp only [exec, Command.exec, TokenDenylistRepository.revoke]
          split_ifs
          · exact .inl member
          · exact .inl (List.mem_append_left _ member)
          · exact .inl member
      | _ =>
          rw [denylist_of_untouched (by simp [Command.tables])]
          exact .inl member

end IssueFlow
