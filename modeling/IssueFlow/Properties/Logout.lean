import IssueFlow.System.Sessions

/-!
# Logged-out tokens

A logout inserts a row into the deny list that stands until the token expires,
and the guard of every request looks the token up there. Only deleting the user
removes such a row: the schema cascades, and the guard does not ask whether the
user exists. As long as no unexpired row goes that way, a logged-out token stays
dead.

## Main definitions

* `LogoutIsFinal` — once a logout has succeeded, its token is never accepted
* `KeepsDenylist` — no unexpired row is deleted together with its user
* `Tracked` — tokens have distinct identifiers, and the deny list is about tokens

## Main results

* `logout_is_final` — runs that keep the deny list
* `deleted_user_revives_token` — a run that deletes the user
-/

namespace IssueFlow

open Store Semantics JavaScript

/-- Deleting a user takes no unexpired row of the deny list with it. -/
def KeepsDenylist (s : Sessions) : Input → Prop
  | .request (.deleteUser id _) =>
      UsersRepository.isReferenced s.db id = false →
        ∀ row ∈ s.db.tokenDenylist, row.userId = id → row.expiresAt ≤ s.db.now
  | _ => True

instance (s : Sessions) (input : Input) : Decidable (KeepsDenylist s input) := by
  unfold KeepsDenylist
  split <;> infer_instance

/-- Two tokens never share a `jti`, and a row of the deny list stands until the
token it is about expires. -/
structure Tracked (s : Sessions) : Prop where
  unique : ∀ token ∈ s.issued, ∀ other ∈ s.issued, token.jti = other.jti → token = other
  listed : ∀ row ∈ s.db.tokenDenylist, ∃ token ∈ s.issued, ∃ exp, token.jti = some row.jti ∧
    token.exp = some exp ∧ row.expiresAt = exp * 1000

/-- A token that is listed until it expires. -/
def Dead (payload : JwtPayload) (db : Db) : Prop :=
  ∃ jti exp, payload.jti = some jti ∧ payload.exp = some exp ∧
    (db.now < exp * 1000 → ∃ row ∈ db.tokenDenylist, row.jti = jti ∧ row.expiresAt = exp * 1000)

section Runs

variable [Postgres] [Bcrypt] [Unicode]

/-- Once a logout has succeeded, no token with its `jti` is accepted. -/
def LogoutIsFinal (inputs : List Input) : Prop :=
  ∀ first payload second, inputs = first ++ .request (.logout payload) :: second →
    (serve (.logout payload) (Sessions.play first).db).1.isOk →
      ∀ token ∈ (Sessions.play inputs).issued, token.jti = payload.jti →
        (Sessions.play inputs).accepts token = false

/-! ### Signed tokens -/

/-- Only a login answers with a token, and the token has the `jti` it drew. -/
theorem login_of_signed {request : Request} {db : Db} {token : JwtPayload}
    (member : token ∈ Sessions.signed (serve request db).1) :
    ∃ expiresInSeconds jti username password,
      request = .login expiresInSeconds jti username password ∧ token.jti = some jti := by
  -- The answer to any other request carries no token.
  have other {α : Type} (p : Service α) {wrap : α → Response}
      (never : ∀ value response, wrap value ≠ .loggedIn response) :
      token ∉ Sessions.signed ((wrap <$> p).run exec db).1 := by
    rw [Program.map_eq_bind, Program.run_bind]
    rcases p.run exec db with ⟨exception | value, after⟩
    · exact List.not_mem_nil
    · have wrapped := never value
      simp only [Program.run_done]
      cases shape : wrap value with
      | loggedIn response => exact absurd shape (wrapped response)
      | _ => exact List.not_mem_nil
  cases request with
  | login expiresInSeconds jti username password =>
      refine ⟨expiresInSeconds, jti, username, password, rfl, ?_⟩
      rw [serve_login] at member
      cases found : validUser username password db with
      | none =>
          rw [found] at member
          cases member
      | some user =>
          rw [found] at member
          rw [List.mem_singleton.mp member]
          rfl
  | _ => exact absurd member (other _ (fun _ _ => nofun))

/-- A step that is admitted keeps track of the tokens. -/
theorem Tracked.step {s : Sessions} {input : Input} (tracked : Tracked s)
    (admits : s.Admits input) : Tracked (s.step input) := by
  cases input with
  | advance elapsed => exact ⟨tracked.unique, tracked.listed⟩
  | request request =>
      -- What a login signs differs from every token so far.
      have fresh : ∀ token ∈ Sessions.signed (serve request s.db).1, ∀ old ∈ s.issued,
          old.jti ≠ token.jti := by
        intro token member old issued
        obtain ⟨expiresInSeconds, jti, username, password, rfl, drawn⟩ := login_of_signed member
        rw [drawn]
        exact admits old issued
      have single : ∀ token ∈ Sessions.signed (serve request s.db).1,
          ∀ other ∈ Sessions.signed (serve request s.db).1, token = other := by
        unfold Sessions.signed
        split
        · intro token member other otherMember
          rw [List.mem_singleton.mp member, List.mem_singleton.mp otherMember]
        · intro token member
          cases member
      constructor
      · intro token member other otherMember same
        rcases List.mem_append.mp member with old | new
        · rcases List.mem_append.mp otherMember with old' | new'
          · exact tracked.unique token old other old' same
          · exact absurd same (fresh other new' token old)
        · rcases List.mem_append.mp otherMember with old' | new'
          · exact absurd same.symm (fresh token new other old')
          · exact single token new other new'
      · intro row member
        rcases denylist_of_serve member with old | ⟨payload, exp, rfl, jti, expiry, expiresAt⟩
        · obtain ⟨token, issued, rest⟩ := tracked.listed row old
          exact ⟨token, List.mem_append_left _ issued, rest⟩
        · exact ⟨payload, List.mem_append_left _ admits, exp, jti, expiry, expiresAt⟩

/-! ### Listed tokens -/

omit [Postgres] [Bcrypt] [Unicode] in
theorem Dead.not_accepted {payload : JwtPayload} {db : Db} (dead : Dead payload db)
    {user : AuthenticatedUser} : ¬ Accepted db payload user := by
  intro accepted
  obtain ⟨jti, exp, token, expiry, listed⟩ := dead
  obtain rfl : jti = user.jti := Option.some.inj (token.symm.trans accepted.token)
  obtain rfl : exp = user.exp := Option.some.inj (expiry.symm.trans accepted.expiry)
  obtain ⟨row, member, same, expiresAt⟩ := listed accepted.unexpired
  have revoked : TokenDenylistRepository.isRevoked user.jti db = true := by
    refine List.any_eq_true.mpr ⟨row, member, ?_⟩
    have unexpired := accepted.unexpired
    rw [← expiresAt] at unexpired
    simp [same, unexpired]
  rw [accepted.unrevoked] at revoked
  cases revoked

/-- A listed token stays listed while no unexpired row is deleted. -/
theorem Dead.step {payload : JwtPayload} {s : Sessions} {input : Input}
    (dead : Dead payload s.db) (keeps : KeepsDenylist s input) :
    Dead payload (s.step input).db := by
  obtain ⟨jti, exp, token, expiry, listed⟩ := dead
  refine ⟨jti, exp, token, expiry, fun unexpired => ?_⟩
  cases input with
  | advance elapsed =>
      apply listed
      have later : s.db.now + elapsed < exp * 1000 := unexpired
      have forward : s.db.now ≤ s.db.now + elapsed :=
        Int.le_add_of_nonneg_right (Int.natCast_nonneg _)
      exact lt_of_le_of_lt forward later
  | request request =>
      have now : (s.step (.request request)).db.now = s.db.now := now_serve request s.db
      rw [now] at unexpired
      obtain ⟨row, member, same, expiresAt⟩ := listed unexpired
      refine ⟨row, denylist_serve member ?_, same, expiresAt⟩
      rintro performedBy rfl
      by_contra unreferenced
      have expired := keeps (by simpa using unreferenced) row member rfl
      rw [expiresAt] at expired
      exact absurd unexpired (not_lt.mpr expired)

/-- A logout that succeeds lists its token. -/
theorem dead_of_logout {payload : JwtPayload} {s : Sessions} (tracked : Tracked s)
    (issued : payload ∈ s.issued) (loggedOut : (serve (.logout payload) s.db).1.isOk) :
    Dead payload (s.step (.request (.logout payload))).db := by
  obtain ⟨user, accepted, revoked⟩ := revoked_of_logout loggedOut
  refine ⟨user.jti, user.exp, accepted.token, accepted.expiry, fun _ => ?_⟩
  rw [TokenDenylistRepository.revoke] at revoked
  split_ifs at revoked with known stored
  · -- A row with this `jti` is about this token.
    obtain ⟨row, member, same⟩ := List.any_eq_true.mp known
    have same : row.jti = user.jti := by simpa using same
    obtain ⟨token, signed, exp, jti, expiry, expiresAt⟩ := tracked.listed row member
    have token_eq : token = payload :=
      tracked.unique token signed payload issued (by rw [jti, accepted.token, same])
    obtain rfl : exp = user.exp := by
      rw [token_eq, accepted.expiry] at expiry
      exact (Option.some.inj expiry).symm
    have after : s.db = (s.step (.request (.logout payload))).db := congrArg Prod.snd revoked
    rw [← after]
    exact ⟨row, member, same, expiresAt⟩
  · have after : { s.db with tokenDenylist := s.db.tokenDenylist ++
        [⟨user.jti, user.id, user.exp * 1000, s.db.now⟩] } =
        (s.step (.request (.logout payload))).db := congrArg Prod.snd revoked
    rw [← after]
    exact ⟨_, List.mem_append_right _ List.mem_cons_self, rfl, rfl⟩
  · cases congrArg Prod.fst revoked

/-- **A logged-out token stays dead**, in every run that keeps the deny list. -/
theorem logout_is_final (inputs : List Input)
    (admitted : Guarded Sessions.step Sessions.Admits inputs Sessions.start)
    (kept : Guarded Sessions.step KeepsDenylist inputs Sessions.start) : LogoutIsFinal inputs := by
  rintro first payload second rfl loggedOut token signed same
  obtain ⟨admittedFirst, admits, admittedSecond⟩ := (guarded_append first _).mp admitted
  obtain ⟨-, -, keptSecond⟩ := (guarded_append first _).mp kept
  have tracked_start : Tracked Sessions.start :=
    ⟨fun _ member => (nomatch member), fun _ member => nomatch member⟩
  have tracked : Tracked (Sessions.play first) :=
    admittedFirst.invariant Tracked (fun _ _ admits tracked => tracked.step admits) tracked_start
  -- The deny list has the token after the logout, and keeps it from then on.
  have dead_logout := dead_of_logout tracked admits loggedOut
  have dead : Dead payload (Sessions.play (first ++ .request (.logout payload) :: second)).db := by
    rw [Sessions.play, List.foldl_append]
    exact keptSecond.invariant (fun s => Dead payload s.db)
      (fun _ _ keeps dead => dead.step keeps) dead_logout
  have tracked_end : Tracked (Sessions.play (first ++ .request (.logout payload) :: second)) :=
    admitted.invariant Tracked (fun _ _ admits tracked => tracked.step admits) tracked_start
  have issued :
      payload ∈ (Sessions.play (first ++ .request (.logout payload) :: second)).issued := by
    rw [Sessions.play, List.foldl_append]
    refine admittedSecond.invariant (fun s => payload ∈ s.issued) ?_ (List.mem_append_left _ admits)
    intro s input _ member
    cases input with
    | request request => exact List.mem_append_left _ member
    | advance elapsed => exact member
  -- No other token has this `jti`.
  obtain rfl := tracked_end.unique token signed payload issued same
  by_contra accepted
  obtain ⟨user, checked⟩ := accepted_of_authenticate (by simpa [Sessions.accepts] using accepted)
  exact dead.not_accepted checked

end Runs

/-! ### A user who is deleted after a logout -/

section Example

open Sample

/-- The token of the first login of `root`. -/
def rootToken : JwtPayload := ⟨1, "root", .admin, some "a", some 0, some 3600⟩

/-- `root` registers, logs in for an hour and logs out. -/
def loginAndOut : List Input :=
  [.request (.createUser ⟨"root", "root@example.com", "Root", .admin, .value "secret"⟩ none ""),
    .request (.login 3600 "a" "root" "secret"), .request (.logout rootToken)]

/-- The token is presented again after its user has been deleted. -/
theorem deleted_user_revives_token : ¬ ∀ inputs,
    Guarded Sessions.step Sessions.Admits inputs Sessions.start → LogoutIsFinal inputs := by
  intro final
  have admitted : Guarded Sessions.step Sessions.Admits
      (loginAndOut ++ [.request (.deleteUser 1 1)]) Sessions.start := by decide +kernel
  have dead := final _ admitted (loginAndOut.take 2) rootToken [.request (.deleteUser 1 1)] rfl
    (by decide +kernel) rootToken (by decide +kernel) rfl
  have accepted : (Sessions.play (loginAndOut ++ [.request (.deleteUser 1 1)])).accepts rootToken =
      true := by decide +kernel
  rw [accepted] at dead
  cases dead

/-- The token is presented again while its user is there. -/
theorem logout_is_final_root : LogoutIsFinal (loginAndOut ++ [.advance 1000]) :=
  logout_is_final _ (by decide +kernel) (by decide +kernel)

end Example

end IssueFlow
