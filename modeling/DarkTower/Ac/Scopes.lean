import DarkTower.Ac.Credentials

/-!
# No scope escalation

The scopes of a credential go into a token as one text, joined by spaces, and
are read from it with `split_whitespace`. Nothing is gained or lost on the way
as long as every stored scope is one word: not empty, without whitespace.

* `written_step`: what a request can do to the table. It inserts a row with the
  default scopes of a service type, or replaces the scopes of a row by scopes
  that `validateScopes` accepts, or writes nothing.
* `scopesAreWords_of_run`: so every stored scope is a word, in every history.
* `no_scope_escalation`: the scopes that a token grants are stored for its
  credential when it is issued, and are the requested ones if the request names
  any.
-/

namespace DarkTower.Ac

open DarkTower.Common DarkTower.Lib

/-- Every stored scope is one word. -/
def ScopesAreWords (table : CredentialTable) : Prop :=
  ∀ row ∈ table, ∀ scope ∈ row.scopes, Text.IsWord scope

/-- What a request can do to the table. -/
inductive Written (table : CredentialTable) : CredentialTable → Prop
  | nothing : Written table table
  | inserted (row : ServiceCredential) (serviceType : ServiceType)
      (h : row.scopes = serviceType.defaultScopes) : Written table (row :: table)
  | updated (credentialId : String) (scopes : List String) (now : ℕ)
      (h : validateScopes scopes = .ok ()) :
      Written table (table.map fun row =>
        if row.credentialId = credentialId then CredentialTable.withScopes row scopes now else row)

section Writers

variable {table table' : CredentialTable}

theorem query_eq_ok {α : Type} {what : String} {failure : Option String} {result answer : α}
    (h : query what failure result = .ok answer) : answer = result := by
  cases failure with
  | none =>
    simp only [query, Except.ok.injEq] at h
    exact h.symm
  | some message => exact absurd h (by simp [query])

theorem written_of_registerService {request : RegisterServiceRequest} {drawn : Registration}
    {response : RegisterServiceResponse}
    (h : registerService table request drawn = .ok (table', response)) : Written table table' := by
  unfold registerService at h
  split at h
  · cases h
  rename_i serviceType _
  split at h
  · cases h
  split at h
  · cases h
  dsimp only at h
  split at h
  · cases h
  rename_i hinsert
  rw [Except.ok.injEq, Prod.mk.injEq] at h
  rw [← h.1, query_eq_ok hinsert]
  exact .inserted _ serviceType rfl

theorem written_handleRegisterService (request : RegisterServiceRequest) (drawn : Registration) :
    Written table (handleRegisterService table request drawn).1 := by
  unfold handleRegisterService
  split
  · exact .nothing
  split
  · exact .nothing
  · rename_i h
    exact written_of_registerService h

theorem written_handleCreateClient (request : RegisterServiceRequest) (drawn : Registration) :
    Written table (handleCreateClient table request drawn).1 := by
  unfold handleCreateClient
  split
  · exact .nothing
  split
  · exact .nothing
  · rename_i h
    -- reading the row back leaves the table as it is
    split <;> exact written_of_registerService h

theorem written_of_updateMetadata {credentialId : String} {scopes : List String} {now : ℕ}
    {failure : Option String} {row : ServiceCredential} (hvalid : validateScopes scopes = .ok ())
    (h : table.updateMetadata credentialId scopes now failure = .ok (table', row)) :
    Written table table' := by
  unfold CredentialTable.updateMetadata at h
  split at h
  · cases h
  · have hanswer := query_eq_ok h
    rw [Prod.mk.injEq] at hanswer
    rw [hanswer.1]
    exact .updated credentialId scopes now hvalid

theorem written_handleUpdateClient (request : UpdateClientRequest) :
    Written table (handleUpdateClient table request).1 := by
  unfold handleUpdateClient
  split
  · exact .nothing
  · exact .nothing
  split
  · exact .nothing
  split
  · exact .nothing
  rename_i hvalid
  split
  · exact .nothing
  · rename_i h
    exact written_of_updateMetadata hvalid h

theorem written_step (S : TokenSettings) (e : CredentialEvent) :
    Written table (table.step S e).1 := by
  cases e with
  | register request drawn => exact written_handleRegisterService request drawn
  | create request drawn => exact written_handleCreateClient request drawn
  | update request => exact written_handleUpdateClient request
  | token payload ctx => exact .nothing

end Writers

/-! ## Stored scopes are words -/

theorem isWhitespace_of_isScopeChar {c : Char} (h : isScopeChar c = true) :
    Text.isWhitespace c = false := by
  simp only [isScopeChar, Bool.or_eq_true, beq_iff_eq] at h
  obtain ((h | rfl) | rfl) | rfl := h
  · exact Unicode.not_isWhitespace_of_isAlphanumeric h
  all_goals decide

theorem isWord_of_validateScope {scope : String} (h : validateScope scope = .ok ()) :
    Text.IsWord scope := by
  unfold validateScope at h
  split at h
  · cases h
  rename_i hne
  split at h
  · cases h
  split at h
  · cases h
  rename_i hchars
  rw [Bool.not_eq_true, Bool.not_eq_false', List.all_eq_true] at hchars
  exact ⟨hne, fun c hc => isWhitespace_of_isScopeChar (hchars c hc)⟩

theorem isWord_of_validateScopes {scopes : List String} (h : validateScopes scopes = .ok ()) :
    ∀ scope ∈ scopes, Text.IsWord scope := by
  induction scopes with
  | nil => exact fun scope hscope => absurd hscope List.not_mem_nil
  | cons scope scopes ih =>
    unfold validateScopes at h
    split at h
    · cases h
    · rename_i hscope
      exact List.forall_mem_cons.mpr ⟨isWord_of_validateScope hscope, ih h⟩

theorem isWord_defaultScopes (serviceType : ServiceType) :
    ∀ scope ∈ serviceType.defaultScopes, Text.IsWord scope := by
  cases serviceType <;> decide

theorem ScopesAreWords.of_written {table table' : CredentialTable} (hwords : ScopesAreWords table)
    (h : Written table table') : ScopesAreWords table' := by
  cases h with
  | nothing => exact hwords
  | inserted row serviceType hrow =>
    exact List.forall_mem_cons.mpr ⟨hrow ▸ isWord_defaultScopes serviceType, hwords⟩
  | updated credentialId scopes now hvalid =>
    intro row hrow
    obtain ⟨old, hold, rfl⟩ := List.mem_map.mp hrow
    split
    · exact isWord_of_validateScopes hvalid
    · exact hwords old hold

theorem scopesAreWords_of_run {S : TokenSettings} {h : List (CredentialEvent × CredentialReply)}
    {table : CredentialTable} (hr : (credentialSystem S).Run h table) : ScopesAreWords table := by
  refine hr.invariant (I := fun _ table => ScopesAreWords table) ?_ ?_
  · exact fun row hrow => absurd hrow List.not_mem_nil
  · intro h table e _ _ hwords
    exact hwords.of_written (written_step S e)

/-! ## What a token grants -/

section Grants

variable {S : TokenSettings} {table : CredentialTable} {ctx : TokenContext}
  {response : TokenResponse}

theorem signToken_eq_ok {clientId : String} {credential : ServiceCredential}
    {scopes : List String} (h : signToken ctx clientId credential scopes = .ok response) :
    response.accessToken.claims.sub = clientId ∧
      response.accessToken.claims.scope = " ".intercalate scopes ∧
      response.accessToken.claims.serviceType = some credential.serviceType ∧
      response.accessToken.claims.iat = timestamp ctx.now ∧
      response.accessToken.claims.exp = timestamp ctx.now + tokenExpirySeconds := by
  unfold signToken at h
  split at h
  · cases h
  · cases h
  split at h
  · cases h
  split at h
  · cases h
  cases h
  exact ⟨rfl, rfl, rfl, rfl, rfl⟩

/-- A token is issued for a stored active credential with the secret presented, with the scopes
    selected from it. -/
theorem issueServiceToken_eq_ok {clientId clientSecret grantType : String}
    {requestedScopes : Option (List String)}
    (h : issueServiceToken S table ctx clientId clientSecret grantType requestedScopes =
      .ok response) :
    ∃ credential scopes,
      table.find? (fun row => row.clientId = clientId) = some credential ∧
        credential.isActive = true ∧
        S.verifyClientSecret clientSecret credential.clientSecretHash = .ok true ∧
        selectScopes credential requestedScopes = .ok scopes ∧
        signToken ctx clientId credential scopes = .ok response := by
  unfold issueServiceToken at h
  split at h
  · cases h
  split at h
  · cases h
  next credential hfind =>
    split at h
    · cases h
    split at h
    · cases h
    next isValid hverify =>
      cases credential with
      | none => cases h
      | some credential =>
        dsimp only at h
        split at h
        · cases h
        next hactive =>
          rw [Bool.or_eq_true, not_or, Bool.not_eq_true, Bool.not_eq_true,
            Bool.not_eq_eq_eq_not, Bool.not_false, Bool.not_eq_eq_eq_not, Bool.not_false] at hactive
          obtain ⟨hactive, rfl⟩ := hactive
          split at h
          · cases h
          next scopes hscopes =>
            exact ⟨credential, scopes, (query_eq_ok hfind).symm, hactive, hverify, hscopes, h⟩

theorem handleServiceToken_eq_ok {payload : ServiceTokenRequest}
    (h : handleServiceToken S table ctx payload = .ok response) :
    ∃ credential scopes,
      table.find? (fun row => row.clientId = response.accessToken.claims.sub) = some credential ∧
        selectScopes credential (payload.scope.map Text.splitWhitespace) = .ok scopes ∧
          response.accessToken.claims.scope = " ".intercalate scopes := by
  unfold handleServiceToken at h
  split at h
  · cases h
  split at h
  · cases h
  obtain ⟨credential, scopes, hfound, _, _, hscopes, hsign⟩ := issueServiceToken_eq_ok h
  obtain ⟨hsub, hscope, _⟩ := signToken_eq_ok hsign
  rw [hsub]
  exact ⟨credential, scopes, hfound, hscopes, hscope⟩

theorem selectScopes_eq_ok {credential : ServiceCredential} {scopes : List String}
    {requestedScopes : Option (List String)}
    (h : selectScopes credential requestedScopes = .ok scopes) :
    scopes ⊆ credential.scopes ∧ ∀ reqScopes, requestedScopes = some reqScopes →
      scopes = reqScopes := by
  cases requestedScopes with
  | none =>
    simp only [selectScopes, Except.ok.injEq] at h
    exact ⟨h ▸ List.Subset.refl _, fun _ hnone => by cases hnone⟩
  | some reqScopes =>
    simp only [selectScopes] at h
    split at h
    · rename_i hall
      rw [Except.ok.injEq] at h
      subst h
      refine ⟨fun scope hscope => ?_, fun _ hsome => Option.some.inj hsome⟩
      simpa using List.all_eq_true.mp hall scope hscope
    · cases h

theorem hasScope_iff {claims : ServiceClaims} {scope : String} :
    claims.hasScope scope = true ↔ scope ∈ tokenScopes claims := by
  rw [ServiceClaims.hasScope, List.any_beq', List.contains_iff_mem, tokenScopes]

end Grants

/-- The token grants scopes stored for its credential only, and those requested
    if the request names any: as `has_scope` of the services reads the claim, and
    as the checks of the Auth Controller do. -/
def NoEscalation (table : CredentialTable) (payload : ServiceTokenRequest)
    (claims : ServiceClaims) : Prop :=
  ∃ credential, table.find? (fun row => row.clientId = claims.sub) = some credential ∧
    (∀ scope, claims.hasScope scope = true → scope ∈ credential.scopes) ∧
    tokenScopes claims ⊆ credential.scopes ∧
    ∀ requested, payload.scope = some requested → ∀ scope,
      (claims.hasScope scope = true ↔ scope ∈ Text.splitWhitespace requested) ∧
        (scope ∈ tokenScopes claims ↔ scope ∈ Text.splitWhitespace requested)

/-- In every history, every issued token is without escalation against the table
    it was issued from. -/
theorem no_scope_escalation (S : TokenSettings) {h h' : List (CredentialEvent × CredentialReply)}
    {table : CredentialTable} (hr : (credentialSystem S).Run h table)
    {payload : ServiceTokenRequest} {ctx : TokenContext} {response : TokenResponse}
    (hissued : (.token payload ctx, .token (.ok response)) :: h' <:+ h) :
    NoEscalation ((credentialSystem S).stateAfter h') payload response.accessToken.claims := by
  have hwords := scopesAreWords_of_run (hr.suffix ((List.suffix_cons _ _).trans hissued))
  obtain ⟨hanswer, -⟩ := hr.answer_of_suffix hissued
  generalize (credentialSystem S).stateAfter h' = table at hanswer hwords
  have hok : handleServiceToken S table ctx payload = .ok response :=
    (CredentialReply.token.inj hanswer).symm
  obtain ⟨credential, scopes, hfind, hselect, hscope⟩ := handleServiceToken_eq_ok hok
  obtain ⟨hsubset, hrequested⟩ := selectScopes_eq_ok hselect
  -- the text of the claim is split into the selected scopes again
  have hsplit : tokenScopes response.accessToken.claims = scopes := by
    rw [tokenScopes, hscope]
    apply Text.splitWhitespace_intercalate
    intro scope hmem
    exact hwords credential (List.mem_of_find?_eq_some hfind) scope (hsubset hmem)
  refine ⟨credential, hfind, fun scope hhas => ?_, ?_, fun requested hreq scope => ?_⟩
  · rw [hasScope_iff, hsplit] at hhas
    exact hsubset hhas
  · rw [hsplit]
    exact hsubset
  · have hscopes := hrequested (Text.splitWhitespace requested) (by rw [hreq, Option.map_some])
    rw [hasScope_iff, hsplit, hscopes]
    exact ⟨Iff.rfl, Iff.rfl⟩

/-- Secrets are stored as they are; for concrete histories. -/
def plainSettings : TokenSettings where
  rateLimitMaxAttempts := 5
  verifyClientSecret secret hash := .ok (secret == hash)

/-- A controller is registered and gets scopes beyond ASCII. -/
def accentedUpdates : List CredentialEvent :=
  [.register ⟨"meeting-controller", none⟩ ⟨0, "id", "mc", .ok "s", (.ok ·), none, none⟩,
    .update ⟨1, "id", some ["lesen:日本", "é-1.x"], none, none⟩]

/-- It asks for one of them, between a no-break space and an ideographic one. -/
def accentedRequest : ServiceTokenRequest :=
  ⟨none, "client_credentials", some "mc", some "s", some "\u00a0é-1.x\u3000"⟩

/-- A context in which the token is signed. -/
def accentedContext : TokenContext :=
  ⟨2, none, .ok 0, .ok (some ⟨"k", "", [7], true, 0, 9, 0⟩), .ok (), .ok 700⟩

/-- The response to `accentedRequest` in it. -/
def accentedResponse : TokenResponse :=
  ⟨⟨700, some "k", ⟨"mc", timestamp 2 + 3600, timestamp 2, "é-1.x", some "meeting-controller"⟩,
    [7]⟩, "Bearer", 3600, "é-1.x"⟩

theorem no_scope_escalation_accented :
    ((credentialSystem plainSettings).playAll accentedUpdates).1.map (·.scopes) =
        [["lesen:日本", "é-1.x"]] ∧
      NoEscalation ((credentialSystem plainSettings).playAll accentedUpdates).1 accentedRequest
        accentedResponse.accessToken.claims := by
  refine ⟨by decide +kernel, ?_⟩
  have hr := Machine.run_of_admits (M := credentialSystem plainSettings) (l := accentedUpdates)
    ⟨trivial, trivial, trivial⟩
  have hanswer : handleServiceToken plainSettings
      ((credentialSystem plainSettings).playAll accentedUpdates).1 accentedContext
        accentedRequest = .ok accentedResponse := by
    decide +kernel
  have hstep : ((credentialSystem plainSettings).step
      ((credentialSystem plainSettings).playAll accentedUpdates).1
        (.token accentedRequest accentedContext)).2 = .token (.ok accentedResponse) :=
    congrArg CredentialReply.token hanswer
  have hissue := Machine.Run.cons (.token accentedRequest accentedContext) hr trivial
  rw [hstep] at hissue
  rw [hr.eq_stateAfter]
  exact no_scope_escalation plainSettings hissue (List.suffix_refl _)

end DarkTower.Ac
