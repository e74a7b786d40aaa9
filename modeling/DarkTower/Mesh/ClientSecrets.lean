import DarkTower.Mesh.Authority

/-!
# The life of a client

What holds of a client of the Auth Controller along the runs of `authority`, from its
registration over the rotations of its secret to its deletion.

* `only_new_secret`: from a rotation to the next one, a client gets tokens with the secret
  that the rotation answered, and not with the old one.
* `no_token_after_deletion`: a deleted client gets no token any more.
* `registered_undeletable`: a client whose registration was logged cannot be deleted,
  for the event refers to its credential.
-/

namespace DarkTower.Mesh

open DarkTower.Ac hiding MeetingTokenClaims GuestTokenClaims
open DarkTower.Common DarkTower.Lib

variable {S : ClientSettings} {seed : Seed} {h : AuthorityHistory} {s : CredentialStore}

/-! ## Ids -/

/-- The ids that an event draws. -/
def AuthorityEvent.ids : AuthorityEvent → Option (String × String)
  | .admin _ request => request.drawn.map fun drawn => (drawn.credentialId, drawn.clientId)
  | _ => none

/-- The ids of a row. -/
def rowIds (row : ServiceCredential) : String × String := (row.credentialId, row.clientId)

theorem drawnIds_eq (h : AuthorityHistory) : drawnIds h = h.filterMap fun x => x.1.ids := by
  induction h with
  | nil => rfl
  | cons x h ih =>
    obtain ⟨e, reply⟩ := x
    cases e <;> simp only [drawnIds, List.filterMap_cons, AuthorityEvent.ids] at ih ⊢ <;> rw [ih]

theorem usedIds_append (newer h : AuthorityHistory) :
    usedIds seed (newer ++ h) = drawnIds newer ++ usedIds seed h := by
  rw [usedIds, usedIds, drawnIds_eq, drawnIds_eq, drawnIds_eq, List.filterMap_append,
    List.append_assoc]

theorem usedIds_cons (e : AuthorityEvent) (reply : AuthorityReply) :
    usedIds seed ((e, reply) :: h) = e.ids.toList ++ usedIds seed h := by
  rw [← List.singleton_append, usedIds_append, drawnIds_eq]
  cases hids : e.ids <;> simp [hids]

theorem genuine_ids {e : AuthorityEvent} (hgenuine : e.Genuine seed h) :
    ∀ new ∈ e.ids, ∀ ids ∈ usedIds seed h, ids.1 ≠ new.1 ∧ ids.2 ≠ new.2 := by
  intro new hnew ids hids
  cases e with
  | admin caller request =>
    obtain ⟨drawn, hdrawn, rfl⟩ := Option.map_eq_some_iff.mp hnew
    exact hgenuine.2 drawn hdrawn ids hids
  | serviceToken payload env => cases hnew
  | internalToken caller request ctx => cases hnew
  | userToken claims key size => cases hnew

/-- A row after a step has the ids of a row before it, or those that the step drew. -/
theorem ids_of_administered {s s' : CredentialStore} {request : AdminRequest}
    {answer : AdminReply} (hdone : Administered s request answer s') {row : ServiceCredential}
    (hrow : row ∈ s'.credentials) :
    (∃ old ∈ s.credentials, rowIds old = rowIds row) ∨
      ∃ drawn, request.drawn = some drawn ∧ rowIds row = (drawn.credentialId, drawn.clientId) := by
  cases hdone with
  | kept _ hs => exact .inl ⟨row, hs ▸ hrow, rfl⟩
  | inserted new drawn _ _ hdrawn hcredentials _ hids _ _ _ _ =>
    rw [hcredentials] at hrow
    rcases List.mem_cons.mp hrow with rfl | hrow
    · exact .inr ⟨drawn, hdrawn, Prod.ext hids.1 hids.2⟩
    · exact .inl ⟨row, hrow, rfl⟩
  | updated id scopes now _ _ hcredentials _ =>
    rw [hcredentials] at hrow
    obtain ⟨old, hold, rfl⟩ := List.mem_map.mp hrow
    refine .inl ⟨old, hold, ?_⟩
    split_ifs <;> rfl
  | rotated id hash now _ hcredentials _ =>
    rw [hcredentials] at hrow
    obtain ⟨old, hold, rfl⟩ := List.mem_map.mp hrow
    refine .inl ⟨old, hold, ?_⟩
    split_ifs <;> rfl
  | deleted id _ hcredentials _ _ =>
    rw [hcredentials] at hrow
    exact .inl ⟨row, List.mem_of_mem_filter hrow, rfl⟩

theorem ids_of_step {e : AuthorityEvent} {row : ServiceCredential}
    (hrow : row ∈ (authorityStep S s e).1.credentials) :
    (∃ old ∈ s.credentials, rowIds old = rowIds row) ∨ e.ids = some (rowIds row) := by
  cases authority_case (S := S) s e with
  | refused _ hcredentials _ => exact .inl ⟨row, hcredentials ▸ hrow, rfl⟩
  | administered caller request claims answer he _ _ hdone =>
    rcases ids_of_administered hdone hrow with hold | ⟨drawn, hdrawn, hids⟩
    · exact .inl hold
    · refine .inr ?_
      rw [he, AuthorityEvent.ids, hdrawn, hids]
      rfl

/-! ## Secrets -/

/-- The credential whose secret a request replaced or that it deleted, as in
    `secretChange`. -/
def changeOf : AuthorityEvent → AuthorityReply → Option (String × Option String)
  | .admin _ request, .admin (.ok answer) => secretChange request answer
  | _, _ => none

/-- The hash that an event draws for a credential. -/
def drawnHash (id : String) : AuthorityEvent → Option String
  | .admin _ request =>
    request.drawn.bind fun drawn =>
      if drawn.credentialId = id then drawn.clientSecretHash.toOption else none
  | _ => none

/-- The hash of the secret of a credential, read from the history: the one it was stored
    with, or that of the last rotation, and none after a deletion. -/
def secretHash (seed : Seed) (id : String) : AuthorityHistory → Option String
  | [] => (seed.credentials.find? fun row => row.credentialId = id).map (·.clientSecretHash)
  | (e, reply) :: h =>
    match changeOf e reply with
    | some (id', hash) => if id' = id then hash else secretHash seed id h
    | none => (drawnHash id e).or (secretHash seed id h)

theorem drawnHash_of_ne {e : AuthorityEvent} {id : String}
    (hne : ∀ new ∈ e.ids, new.1 ≠ id) : drawnHash id e = none := by
  cases e with
  | admin caller request =>
    simp only [AuthorityEvent.ids, Option.mem_def, Option.map_eq_some_iff] at hne
    simp only [drawnHash]
    cases hdrawn : request.drawn with
    | none => rfl
    | some drawn =>
      have hid : drawn.credentialId ≠ id := hne _ ⟨drawn, hdrawn, rfl⟩
      simp [hid]
  | serviceToken payload env => rfl
  | internalToken caller request ctx => rfl
  | userToken claims key size => rfl

/-- A step that neither draws nor changes the secret of a credential. -/
theorem secretHash_cons_of_ne {e : AuthorityEvent} {reply : AuthorityReply} {id : String}
    (hids : ∀ new ∈ e.ids, new.1 ≠ id) (hchange : ∀ change ∈ changeOf e reply, change.1 ≠ id) :
    secretHash seed id ((e, reply) :: h) = secretHash seed id h := by
  rw [secretHash]
  cases hc : changeOf e reply with
  | none => simp only [drawnHash_of_ne hids, Option.none_or]
  | some change =>
    obtain ⟨id', hash⟩ := change
    exact if_neg (hchange _ hc)

theorem secretHash_append_of_ne {newer : AuthorityHistory} {id : String}
    (hids : ∀ new ∈ drawnIds newer, new.1 ≠ id)
    (hchange : ∀ x ∈ newer, ∀ change ∈ changeOf x.1 x.2, change.1 ≠ id) :
    secretHash seed id (newer ++ h) = secretHash seed id h := by
  induction newer with
  | nil => rfl
  | cons x newer ih =>
    rw [drawnIds_eq] at hids
    rw [List.cons_append, secretHash_cons_of_ne]
    · refine ih ?_ fun x hx => hchange x (List.mem_cons_of_mem _ hx)
      intro new hnew
      rw [drawnIds_eq] at hnew
      obtain ⟨y, hy, hnew⟩ := List.mem_filterMap.mp hnew
      exact hids new (List.mem_filterMap.mpr ⟨y, List.mem_cons_of_mem _ hy, hnew⟩)
    · exact fun new hnew => hids new (List.mem_filterMap.mpr ⟨x, List.mem_cons_self, hnew⟩)
    · exact hchange x List.mem_cons_self

/-- The credentials are those of the history: ids that were used, each once, and hashes that
    the history gives. -/
structure Recorded (seed : Seed) (h : AuthorityHistory) (s : CredentialStore) : Prop where
  used : ∀ row ∈ s.credentials, rowIds row ∈ usedIds seed h
  distinct : (usedIds seed h).Pairwise fun ids ids' => ids.1 ≠ ids'.1 ∧ ids.2 ≠ ids'.2
  hashed : ∀ row ∈ s.credentials,
    secretHash seed row.credentialId h = some row.clientSecretHash

theorem recorded_seed : Recorded seed [] seed.toCredentialStore where
  used row hrow := List.mem_append_right _ (List.mem_map.mpr ⟨row, hrow, rfl⟩)
  distinct := by
    refine List.pairwise_map.mpr ?_
    exact (List.pairwise_map.mp seed.idKey).and (List.pairwise_map.mp seed.clientKey)
  hashed row hrow := by
    have hfind : (seed.credentials.find? fun row' => row'.credentialId = row.credentialId) =
        some row := by
      have hsome : (seed.credentials.find? fun row' =>
          row'.credentialId = row.credentialId).isSome :=
        List.find?_isSome.mpr ⟨row, hrow, by simp⟩
      obtain ⟨found, hfound⟩ := Option.isSome_iff_exists.mp hsome
      have hid := List.find?_some hfound
      rw [hfound, List.inj_on_of_nodup_map seed.idKey (List.mem_of_find?_eq_some hfound) hrow
        (of_decide_eq_true hid)]
    rw [secretHash, hfind]
    rfl

/-- The hash of a row after an administrative request. -/
theorem hashed_of_administered {s s' : CredentialStore} {caller : Caller} {request : AdminRequest}
    {answer : AdminReply} (hrec : Recorded seed h s)
    (hfresh : ∀ new ∈ (AuthorityEvent.admin caller request).ids, ∀ ids ∈ usedIds seed h,
      ids.1 ≠ new.1 ∧ ids.2 ≠ new.2)
    (hdone : Administered s request answer s') {row : ServiceCredential}
    (hrow : row ∈ s'.credentials) :
    secretHash seed row.credentialId ((.admin caller request, .admin (.ok answer)) :: h) =
      some row.clientSecretHash := by
  -- a row that was there and keeps its hash
  have hkept : ∀ old ∈ s.credentials, old.clientSecretHash = row.clientSecretHash →
      old.credentialId = row.credentialId →
      (∀ change ∈ changeOf (.admin caller request) (.admin (.ok answer)),
        change.1 ≠ row.credentialId) →
      secretHash seed row.credentialId ((.admin caller request, .admin (.ok answer)) :: h) =
        some row.clientSecretHash := by
    intro old hold hhash hid hchange
    rw [secretHash_cons_of_ne (fun new hnew => ?_) hchange, ← hid, hrec.hashed old hold, hhash]
    exact fun heq => (hfresh new hnew _ (hrec.used old hold)).1 (hid.trans heq.symm)
  cases hdone with
  | kept hchange hs => exact hkept row (hs ▸ hrow) rfl rfl (by simp [changeOf, hchange])
  | inserted new drawn _ hchange hdrawn hcredentials _ hids hhash _ _ _ =>
    rw [hcredentials] at hrow
    rcases List.mem_cons.mp hrow with rfl | hrow
    · have hchangeOf : changeOf (.admin caller request) (.admin (.ok answer)) = none := hchange
      have hdrawnHash : drawnHash row.credentialId (.admin caller request) =
          some row.clientSecretHash := by
        simp [drawnHash, hdrawn, hids.1, hhash, Except.toOption]
      simp only [secretHash, hchangeOf, hdrawnHash, Option.some_or]
    · exact hkept row hrow rfl rfl (by simp [changeOf, hchange])
  | updated id scopes now hchange _ hcredentials _ =>
    rw [hcredentials] at hrow
    obtain ⟨old, hold, rfl⟩ := List.mem_map.mp hrow
    refine hkept old hold ?_ ?_ (by simp [changeOf, hchange]) <;> split_ifs <;> rfl
  | rotated id hash now hchange hcredentials _ =>
    rw [hcredentials] at hrow
    obtain ⟨old, hold, rfl⟩ := List.mem_map.mp hrow
    by_cases hid : old.credentialId = id
    · have hchangeOf : changeOf (.admin caller request) (.admin (.ok answer)) =
        some (id, some hash) := hchange
      simp only [secretHash, hchangeOf, CredentialTable.withSecret, hid, if_true]
    · rw [if_neg hid] at hkept ⊢
      exact hkept old hold rfl rfl (by simp [changeOf, hchange, Ne.symm hid])
  | deleted id hchange hcredentials _ _ =>
    rw [hcredentials] at hrow
    obtain ⟨hold, hid⟩ := List.mem_filter.mp hrow
    refine hkept row hold rfl rfl fun change hmem => ?_
    rw [changeOf, hchange, Option.mem_some_iff] at hmem
    rw [← hmem]
    exact (of_decide_eq_true hid).symm

theorem recorded_of_run (hr : (authority S seed).Run h s) : Recorded seed h s := by
  refine hr.invariant (I := fun h s => Recorded seed h s) recorded_seed ?_
  intro h s e _ hgenuine hrec
  have hfresh := genuine_ids hgenuine
  refine ⟨fun row hrow => ?_, ?_, fun row hrow => ?_⟩
  · rw [usedIds_cons]
    rcases ids_of_step hrow with ⟨old, hold, hids⟩ | hids
    · exact List.mem_append_right _ (hids ▸ hrec.used old hold)
    · exact List.mem_append_left _ (by rw [hids]; exact List.mem_singleton_self _)
  · rw [usedIds_cons]
    refine List.pairwise_append.mpr ⟨?_, hrec.distinct, fun new hnew ids hids => ?_⟩
    · cases e.ids <;> simp
    · have hne := hfresh new (Option.mem_toList.mp hnew) ids hids
      exact ⟨hne.1.symm, hne.2.symm⟩
  · cases authority_case (S := S) s e with
    | refused hadmin hcredentials _ =>
      change row ∈ (authorityStep S s e).1.credentials at hrow
      rw [hcredentials] at hrow
      rw [secretHash_cons_of_ne]
      · exact hrec.hashed row hrow
      · exact fun new hnew => ((hfresh new hnew _ (hrec.used row hrow)).1).symm
      · intro change hchange
        have hnone : changeOf e ((authority S seed).step s e).2 = none := by
          unfold changeOf
          split
          · exact absurd (by assumption) (hadmin _)
          · rfl
        rw [hnone] at hchange
        cases hchange
    | administered caller request claims answer he hreply _ hdone =>
      subst he
      change secretHash seed row.credentialId ((_, (authorityStep S s _).2) :: h) = _
      rw [hreply]
      exact hashed_of_administered hrec hfresh hdone hrow

/-- Two used pairs of ids with the same client are the same. -/
theorem Recorded.ids_of_client {ids ids' : String × String} (hrec : Recorded seed h s)
    (hids : ids ∈ usedIds seed h) (hids' : ids' ∈ usedIds seed h) (hclient : ids.2 = ids'.2) :
    ids = ids' := by
  have : Std.Symm fun ids ids' : String × String => ids.1 ≠ ids'.1 ∧ ids.2 ≠ ids'.2 :=
    ⟨fun _ _ hne => ⟨hne.1.symm, hne.2.symm⟩⟩
  by_contra hne
  exact (hrec.distinct.forall hids hids' hne).2 hclient

/-! ### Rotation -/

/-- The credential of a token is on record with its ids and its hash. -/
theorem recorded_of_issuedFor (hr : (authority S seed).Run h s) {h' : AuthorityHistory}
    {clientSecret : String} {claims : ServiceClaims} {credential : ServiceCredential}
    (hissued : IssuedFor S seed h h' clientSecret claims credential) :
    credential ∈ ((authority S seed).stateAfter h').credentials ∧
      Recorded seed h' ((authority S seed).stateAfter h') ∧
      rowIds credential = (credential.credentialId, claims.sub) ∧
      S.verifyClientSecret clientSecret credential.clientSecretHash = .ok true := by
  obtain ⟨_, _, _, _, hsuffix, _, _, hgranted⟩ := hissued
  have hclient := List.find?_some hgranted.found
  refine ⟨List.mem_of_find?_eq_some hgranted.found,
    recorded_of_run (hr.suffix ((List.suffix_cons _ _).trans hsuffix)), ?_, hgranted.verified⟩
  rw [rowIds, of_decide_eq_true hclient]

/-- A rotation that is answered finds its credential. -/
theorem handleRotateClientSecret_eq_ok {request : RotateSecretRequest}
    {response : RotateSecretResponse}
    (hok : (handleRotateClientSecret s request).2 = .ok response) :
    ∃ row ∈ s.credentials, rowIds row = (request.id, response.clientId) := by
  unfold handleRotateClientSecret at hok
  split at hok
  · cases hok
  · cases hok
  next credential hfetch =>
    have hfind := (query_eq_ok hfetch).symm
    have hfound := List.find?_some hfind
    have hid := of_decide_eq_true hfound
    refine ⟨credential, List.mem_of_find?_eq_some hfind, ?_⟩
    split at hok
    · cases hok
    split at hok
    · cases hok
    split at hok
    · cases hok
    · rw [← Except.ok.inj hok, rowIds, hid]

/-- The answer of a handler behind the administration, and the store after it. -/
theorem answer_of_admin (hr : (authority S seed).Run h s) {caller : Caller} {request : AdminRequest}
    {answer : AdminReply} {h₀ : AuthorityHistory}
    (hdone : (.admin caller request, .admin (.ok answer)) :: h₀ <:+ h) :
    (request.handle ((authority S seed).stateAfter h₀)).2 = answer ∧
      (authority S seed).stateAfter ((.admin caller request, .admin (.ok answer)) :: h₀) =
        (request.handle ((authority S seed).stateAfter h₀)).1 := by
  have hanswer := (hr.answer_of_suffix hdone).1
  change _ = (authorityStep S ((authority S seed).stateAfter h₀) (.admin caller request)).2
    at hanswer
  change _ ∧ (authorityStep S ((authority S seed).stateAfter h₀) (.admin caller request)).1 = _
  simp only [authorityStep] at hanswer ⊢
  split at hanswer
  · cases hanswer
  · exact ⟨(Except.ok.inj (AuthorityReply.admin.inj hanswer)).symm, rfl⟩

/-- A hash of one of the secrets fits no other one of them. -/
def Distinguishes (S : ClientSettings) (hashClientSecret : String → Except AcError String)
    (secrets : Set String) : Prop :=
  ∀ secret ∈ secrets, ∀ other ∈ secrets, ∀ hash, hashClientSecret secret = .ok hash →
    S.verifyClientSecret other hash = .ok true → other = secret

/-- From the rotation of a client's secret to the next one, every token that the client gets
    is issued on a secret that fits the hash of the answered one; the old one, which bcrypt
    tells apart from it, gets none. -/
theorem only_new_secret (hr : (authority S seed).Run h s) {caller : Caller}
    {request : RotateSecretRequest} {response : RotateSecretResponse}
    (newer : AuthorityHistory) {h₀ : AuthorityHistory}
    (hlast : ∀ x ∈ newer, ∀ change ∈ changeOf x.1 x.2, change.1 ≠ request.id)
    {clientSecret : String} {claims : ServiceClaims} {credential : ServiceCredential}
    (hissued : IssuedFor S seed h (newer ++ (.admin caller (.rotateSecret request),
      .admin (.ok (.rotated (.ok response)))) :: h₀) clientSecret claims credential)
    (hsub : claims.sub = response.clientId) :
    (∃ hash, request.hashClientSecret response.clientSecret = .ok hash ∧
        S.verifyClientSecret clientSecret hash = .ok true) ∧
      ∀ old, Distinguishes S request.hashClientSecret {response.clientSecret, old} →
        old ≠ response.clientSecret → clientSecret ≠ old := by
  obtain ⟨hmem, hrec, hids, hverified⟩ := recorded_of_issuedFor hr hissued
  obtain ⟨_, _, _, _, hsuffix, _⟩ := hissued
  have hrot := ((List.suffix_append _ _).trans (List.suffix_cons _ _)).trans hsuffix
  have hanswer := (answer_of_admin hr hrot).1
  obtain ⟨row, hrow, hrowIds⟩ := handleRotateClientSecret_eq_ok
    (AdminReply.rotated.inj hanswer)
  have hused := (recorded_of_run (hr.suffix ((List.suffix_cons _ _).trans hrot))).used row hrow
  -- the client of the token is the one of the rotation
  have hsame : rowIds credential = (request.id, response.clientId) := by
    refine hrec.ids_of_client (hrec.used credential hmem) ?_ (by rw [hids, hsub])
    rw [usedIds_append, usedIds_cons, ← hrowIds]
    exact List.mem_append_right _ (List.mem_append_right _ hused)
  have hid : credential.credentialId = request.id := congrArg Prod.fst hsame
  -- and nothing has drawn its id since
  have hdrawn : ∀ new ∈ drawnIds newer, new.1 ≠ request.id := by
    intro new hnew
    have hpair := hrec.distinct
    rw [usedIds_append] at hpair
    have hne := (List.pairwise_append.mp hpair).2.2 new hnew (rowIds row)
      (by rw [usedIds_cons]; exact List.mem_append_right _ hused)
    rw [hrowIds] at hne
    exact hne.1
  have hcurrent := hrec.hashed credential hmem
  have hchange : changeOf (.admin caller (.rotateSecret request))
      (.admin (.ok (.rotated (.ok response)))) =
        some (request.id, (request.hashClientSecret response.clientSecret).toOption) := rfl
  rw [hid, secretHash_append_of_ne hdrawn hlast, secretHash, hchange] at hcurrent
  simp only [if_true] at hcurrent
  have hhash : request.hashClientSecret response.clientSecret =
      .ok credential.clientSecretHash := by
    cases hhash : request.hashClientSecret response.clientSecret with
    | error e => rw [hhash] at hcurrent; cases hcurrent
    | ok hash => rw [hhash] at hcurrent; rw [Option.some.inj hcurrent]
  refine ⟨⟨_, hhash, hverified⟩, ?_⟩
  rintro old hbcrypt hne rfl
  exact hne (hbcrypt _ (.inl rfl) _ (.inr rfl) _ hhash hverified)

/-- The administrator rotates the secret of `"mc"`. -/
def rotation : RotateSecretRequest := ⟨fromSecs 2, "id-2", none, .ok "v", (.ok ·), none⟩

/-- A token for the Meeting Controller, and a rotation of its secret. -/
abbrev rotationHistory : AuthorityHistory :=
  (.admin adminCaller (.rotateSecret rotation), .admin (.ok (.rotated (.ok ⟨"mc", "v"⟩)))) ::
    tokenHistory

/-- The store after the rotation. -/
def rotatedStore : CredentialStore := (handleRotateClientSecret tokenStore rotation).1

theorem run_rotation : (authority clientSettings adminSeed).Run rotationHistory rotatedStore := by
  have hok : (handleRotateClientSecret tokenStore rotation).2 = .ok ⟨"mc", "v"⟩ := by
    decide +kernel
  have hgenuine : (AuthorityEvent.admin adminCaller (.rotateSecret rotation)).Genuine adminSeed
      tokenHistory := ⟨genuine_adminCaller, by simp [AdminRequest.drawn]⟩
  have hrun := run_admin run_token hgenuine check_adminCaller
  change (authority clientSettings adminSeed).Run
    ((_, .admin (.ok (.rotated (handleRotateClientSecret tokenStore rotation).2))) :: _) _ at hrun
  rw [hok] at hrun
  exact hrun

/-- `"mc"` gets its next token with the new secret, and not with the old one. -/
theorem only_new_secret_rotation :
    clientSettings.verifyClientSecret "v" "v" = .ok true ∧ "v" ≠ "t" := by
  have hok : (rotatedStore.handleServiceToken clientSettings tokenEnv (tokenPayload "mc" "v")).2 =
      .ok ⟨controllerToken, "Bearer", 3600, "service.write.mh service.write.gc"⟩ := by
    decide +kernel
  have hrun := run_serviceToken run_rotation hok
  obtain ⟨clientId, clientSecret, credential, hextract, hissued⟩ :=
    issuedFor_of_suffix hrun (List.suffix_refl _)
  obtain rfl : "v" = clientSecret := congrArg Prod.snd (Except.ok.inj hextract)
  have hbcrypt : Distinguishes clientSettings rotation.hashClientSecret {"v", "t"} := by
    intro secret _ other _ hash hhash hverified
    obtain rfl := Except.ok.inj hhash
    exact of_decide_eq_true (Except.ok.inj hverified)
  have hlast : ∀ x ∈ ([] : AuthorityHistory), ∀ change ∈ changeOf x.1 x.2,
      change.1 ≠ rotation.id := by simp
  have hnew := only_new_secret hrun [] hlast hissued rfl
  obtain ⟨hash, hhash, hverified⟩ := hnew.1
  obtain rfl := Except.ok.inj hhash
  exact ⟨hverified, hnew.2 "t" hbcrypt (by decide)⟩

/-! ### Deletion -/

theorem handleDeleteClient_eq_ok {request : DeleteClientRequest}
    (hok : (handleDeleteClient s request).2 = .ok ()) :
    ∀ row ∈ (handleDeleteClient s request).1.credentials, row.credentialId ≠ request.id := by
  unfold handleDeleteClient at hok ⊢
  split at hok
  · cases hok
  · cases hok
  split at hok
  · cases hok
  next s' hdelete =>
    intro row hrow
    rw [(CredentialStore.delete_eq_ok hdelete).1] at hrow
    exact of_decide_eq_true (List.mem_filter.mp hrow).2

/-- A credential that is gone stays away. -/
theorem absent_of_suffix (hr : (authority S seed).Run h s) {id : String} {h₀ : AuthorityHistory}
    (hs : h₀ <:+ h) (hused : id ∈ (usedIds seed h₀).map (·.1))
    (habsent : ∀ row ∈ ((authority S seed).stateAfter h₀).credentials, row.credentialId ≠ id) :
    ∀ row ∈ s.credentials, row.credentialId ≠ id := by
  refine hr.invariant (I := fun h s => h₀ <:+ h → ∀ row ∈ s.credentials, row.credentialId ≠ id)
    ?_ ?_ hs
  · intro hs
    obtain rfl := List.suffix_nil.mp hs
    exact habsent
  · intro h s e hr hgenuine hI hs row hrow
    rcases List.suffix_cons_iff.mp hs with rfl | hs
    · rw [← (Machine.Run.cons e hr hgenuine).eq_stateAfter] at habsent
      exact habsent row hrow
    · rcases ids_of_step hrow with ⟨old, hold, hids⟩ | hids
      · have hid : old.credentialId = row.credentialId := congrArg Prod.fst hids
        exact hid ▸ hI hs old hold
      · obtain ⟨ids, hids', rfl⟩ := List.mem_map.mp hused
        obtain ⟨newer, rfl⟩ := hs
        have hmem : ids ∈ usedIds seed (newer ++ h₀) := by
          rw [usedIds_append]
          exact List.mem_append_right _ hids'
        exact ((genuine_ids hgenuine _ hids ids hmem).1).symm

/-- No token is issued on the ids of a credential that is gone. -/
theorem sub_ne_of_absent (hr : (authority S seed).Run h s) {h₀ h' : AuthorityHistory}
    (hs : h₀ <:+ h') {ids : String × String} (hused : ids ∈ usedIds seed h₀)
    (habsent : ∀ row ∈ ((authority S seed).stateAfter h₀).credentials, row.credentialId ≠ ids.1)
    {clientSecret : String} {claims : ServiceClaims} {credential : ServiceCredential}
    (hissued : IssuedFor S seed h h' clientSecret claims credential) : claims.sub ≠ ids.2 := by
  intro hsub
  obtain ⟨hmem, hrec, hids, _⟩ := recorded_of_issuedFor hr hissued
  obtain ⟨_, _, _, _, hsuffix, _⟩ := hissued
  have hsame : rowIds credential = ids := by
    refine hrec.ids_of_client (hrec.used credential hmem) ?_ (by rw [hids, hsub])
    obtain ⟨newer, rfl⟩ := hs
    rw [usedIds_append]
    exact List.mem_append_right _ hused
  exact absent_of_suffix (hr.suffix ((List.suffix_cons _ _).trans hsuffix)) hs
    (List.mem_map_of_mem hused) habsent credential hmem (congrArg Prod.fst hsame)

/-- A deletion takes the credential out, and its ids stay used. -/
theorem absent_of_deletion (hr : (authority S seed).Run h s) {caller : Caller}
    {request : DeleteClientRequest} {h₀ : AuthorityHistory} {row : ServiceCredential}
    (hdeleted : (.admin caller (.delete request), .admin (.ok (.deleted (.ok ())))) :: h₀ <:+ h)
    (hrow : row ∈ ((authority S seed).stateAfter h₀).credentials)
    (hid : row.credentialId = request.id) :
    rowIds row ∈ usedIds seed ((.admin caller (.delete request),
        .admin (.ok (.deleted (.ok ())))) :: h₀) ∧
      ∀ row' ∈ ((authority S seed).stateAfter ((.admin caller (.delete request),
        .admin (.ok (.deleted (.ok ())))) :: h₀)).credentials,
        row'.credentialId ≠ row.credentialId := by
  have hused := (recorded_of_run (hr.suffix ((List.suffix_cons _ _).trans hdeleted))).used row hrow
  obtain ⟨hanswer, hstate⟩ := answer_of_admin hr hdeleted
  refine ⟨?_, ?_⟩
  · rw [usedIds_cons]
    exact List.mem_append_right _ hused
  · rw [hstate, hid]
    exact handleDeleteClient_eq_ok (AdminReply.deleted.inj hanswer)

/-- A client that was deleted gets no token any more. -/
theorem no_token_after_deletion (hr : (authority S seed).Run h s) {caller : Caller}
    {request : DeleteClientRequest} (newer : AuthorityHistory) {h₀ : AuthorityHistory}
    {row : ServiceCredential}
    (hrow : row ∈ ((authority S seed).stateAfter h₀).credentials)
    (hid : row.credentialId = request.id) {clientSecret : String} {claims : ServiceClaims}
    {credential : ServiceCredential}
    (hissued : IssuedFor S seed h (newer ++ (.admin caller (.delete request),
      .admin (.ok (.deleted (.ok ())))) :: h₀) clientSecret claims credential) :
    claims.sub ≠ row.clientId := by
  obtain ⟨_, _, _, _, hsuffix, _⟩ := id hissued
  have hdeleted := ((List.suffix_append newer _).trans (List.suffix_cons _ _)).trans hsuffix
  obtain ⟨hused, habsent⟩ := absent_of_deletion hr hdeleted hrow hid
  exact sub_ne_of_absent hr (List.suffix_append _ _) hused habsent hissued

/-- The administrator deletes `"mc"` and gets another token itself. -/
theorem no_token_after_deletion_mc : adminToken.claims.sub ≠ "mc" := by
  have hdeleted : (handleDeleteClient tokenStore ⟨"id-2", none, none⟩).2 = .ok () := by
    decide +kernel
  have hrun := run_deletion
  change (authority clientSettings adminSeed).Run ((_, .admin (.ok (.deleted
    (handleDeleteClient tokenStore ⟨"id-2", none, none⟩).2))) :: _) _ at hrun
  rw [hdeleted] at hrun
  have hok : (((deletion.handle tokenStore).1).handleServiceToken clientSettings tokenEnv
      (tokenPayload "admin" "s")).2 = .ok ⟨adminToken, "Bearer", 3600, "admin:services"⟩ := by
    decide +kernel
  have hlater := run_serviceToken hrun hok
  obtain ⟨_, _, _, _, hissued⟩ := issuedFor_of_suffix hlater (List.suffix_refl _)
  have hrow : (⟨"id-2", "mc", "t", "meeting-controller", none,
      ["service.write.mh", "service.write.gc"], true, 0, 0⟩ : ServiceCredential) ∈
      ((authority clientSettings adminSeed).stateAfter tokenHistory).credentials := by
    rw [← run_token.eq_stateAfter]
    decide +kernel
  exact no_token_after_deletion hlater [] hrow rfl hissued

/-! ### Events -/

theorem authEvents_of_administered {s s' : CredentialStore} {request : AdminRequest}
    {answer : AdminReply} (hdone : Administered s request answer s') :
    s.authEvents ⊆ s'.authEvents := by
  cases hdone with
  | kept _ hs => exact hs ▸ List.Subset.refl _
  | inserted _ _ _ _ _ _ hevents _ _ _ _ _ => exact hevents
  | updated _ _ _ _ _ _ hevents => exact hevents ▸ List.Subset.refl _
  | rotated _ _ _ _ _ hevents => exact hevents ▸ List.Subset.refl _
  | deleted _ _ _ hevents _ => exact hevents ▸ List.Subset.refl _

/-- An event that was logged stays. -/
theorem authEvents_of_suffix (hr : (authority S seed).Run h s) {h' : AuthorityHistory}
    (hs : h' <:+ h) : ((authority S seed).stateAfter h').authEvents ⊆ s.authEvents := by
  have hle := Machine.Run.le_of_suffix (r := fun s s' : CredentialStore =>
    s.authEvents ⊆ s'.authEvents) (C := fun _ _ => True) (fun _ => List.Subset.refl _)
    (fun _ _ _ => List.Subset.trans) (fun h s e _ _ _ => by
      cases authority_case (S := S) s e with
      | refused _ _ hevents => exact hevents
      | administered _ _ _ _ _ _ _ hdone => exact authEvents_of_administered hdone)
    hr (fun _ _ _ _ => trivial) hs (List.suffix_refl h)
  rw [hr.eq_stateAfter]
  exact hle

/-- A credential with an event cannot be deleted. -/
theorem handleDeleteClient_of_logged {request : DeleteClientRequest} {e : CredentialLog}
    (he : e ∈ s.authEvents) (hid : e.credentialId = request.id) :
    ∃ error, (handleDeleteClient s request).2 = .error error := by
  unfold handleDeleteClient
  split
  · exact ⟨_, rfl⟩
  · exact ⟨_, rfl⟩
  split
  · exact ⟨_, rfl⟩
  next s' hdelete => exact absurd hid ((CredentialStore.delete_eq_ok hdelete).2.2 e he)

theorem registered_eq_ok {payload : RegisterServiceRequest} {drawn : Registration}
    {response : RegisterServiceResponse} (loggedAt : ℕ)
    (hok : (handleRegisterService s.credentials payload drawn).2 = .ok response) :
    (s.registerService payload drawn (some loggedAt)).authEvents =
      ⟨drawn.credentialId, true, loggedAt⟩ :: s.authEvents := by
  unfold handleRegisterService at hok
  split at hok
  · cases hok
  split at hok
  · cases hok
  next table response hregister =>
    obtain ⟨row, _, rfl, hids, _, _, _, _⟩ := registerService_eq_ok hregister
    obtain ⟨hcredentials, hevents⟩ := CredentialStore.write_of_ids
      (show s.credentials.map (·.credentialId) ⊆
        (row :: s.credentials).map (·.credentialId) by simp)
    have hmem : drawn.credentialId ∈
        (s.write (row :: s.credentials)).credentials.map (·.credentialId) := by
      rw [hcredentials, ← hids.1]
      exact List.mem_map_of_mem List.mem_cons_self
    simp only [CredentialStore.registerService, hregister, CredentialStore.logEvent, dif_pos hmem,
      hevents]

/-- A client whose registration was logged cannot be deleted any more: its credential stays,
    and every deletion fails. -/
theorem registered_undeletable (hr : (authority S seed).Run h s) {caller : Caller}
    {payload : RegisterServiceRequest} {drawn : Registration} {loggedAt : ℕ}
    {response : RegisterServiceResponse} {h' : AuthorityHistory}
    (hdone : (.admin caller (.register payload drawn (some loggedAt)),
      .admin (.ok (.registered (.ok response)))) :: h' <:+ h) :
    (∃ row ∈ s.credentials, row.credentialId = drawn.credentialId) ∧
      ∀ request : DeleteClientRequest, request.id = drawn.credentialId →
        ∃ error, (handleDeleteClient s request).2 = .error error := by
  obtain ⟨hanswer, hstate⟩ := answer_of_admin hr hdone
  have hevents := authEvents_of_suffix hr hdone
  have hlogged := registered_eq_ok loggedAt (AdminReply.registered.inj hanswer)
  rw [hstate, AdminRequest.handle, hlogged] at hevents
  have he := hevents List.mem_cons_self
  refine ⟨List.mem_map.mp (s.references _ he), fun request hid => ?_⟩
  exact handleDeleteClient_of_logged he hid.symm

/-- A media handler is registered and its registration logged. -/
def registration : Registration := ⟨fromSecs 2, "id-3", "mh", .ok "u", (.ok ·), none, none⟩

theorem registered_undeletable_mh :
    ∃ s, (authority clientSettings adminSeed).Run
        ((.admin adminCaller (.register ⟨"media-handler", none⟩ registration (some (fromSecs 2))),
          .admin (.ok (.registered (.ok ⟨"mh", "u", "media-handler",
            ["service.write.mc", "service.write.gc"]⟩)))) :: tokenHistory) s ∧
      (∃ row ∈ s.credentials, row.credentialId = registration.credentialId) ∧
      ∀ request : DeleteClientRequest, request.id = registration.credentialId →
        ∃ error, (handleDeleteClient s request).2 = .error error := by
  have hok : (handleRegisterService tokenStore.credentials ⟨"media-handler", none⟩
      registration).2 = .ok ⟨"mh", "u", "media-handler",
        ["service.write.mc", "service.write.gc"]⟩ := by decide +kernel
  have hgenuine : (AuthorityEvent.admin adminCaller (.register ⟨"media-handler", none⟩ registration
      (some (fromSecs 2)))).Genuine adminSeed tokenHistory := ⟨genuine_adminCaller, by decide⟩
  have hrun := run_admin run_token hgenuine check_adminCaller
  change (authority clientSettings adminSeed).Run ((_, .admin (.ok (.registered
    (handleRegisterService tokenStore.credentials ⟨"media-handler", none⟩ registration).2))) :: _) _
    at hrun
  rw [hok] at hrun
  exact ⟨_, hrun, registered_undeletable hrun (List.suffix_refl _)⟩

end DarkTower.Mesh
