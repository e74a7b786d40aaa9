import DarkTower.Mc.IndexAgreement

/-!
# Who can reconnect, and when

The invariant `Ledger` ties the register of a meeting to the bindings handed
out in its history: a participant holds the key of the latest binding issued
to it, and a stored binding is one that was issued, with its token, nonce and
time of issue.

* `reconnect_authority`: a reconnect succeeds only with the latest binding of
  a present participant, at most 30 s after it was issued and with its token
  (as bytes: hex digits of either case are accepted); no binding is used
  twice; a failed reconnect changes nothing but an expired binding.
* `reconnect_in_grace_iff`: a reconnect with the latest binding succeeds
  exactly up to 30 s after the binding was issued. The age of the binding runs
  from its issue, not from the disconnect, so a participant that was connected
  for longer cannot use its grace period (`graceReconnect_refused`).
-/

namespace DarkTower.Mc

open DarkTower.Common DarkTower.Lib

variable {R : Ring} {meetingId : String} {mgr : SessionBindingManager} {createdAt : ℤ}

/-! ## What never changes -/

namespace MeetingActor

variable (m : MeetingActor)

/-- The meeting id and the binding manager, which enter every token. -/
def config : String × SessionBindingManager := (m.meetingId, m.bindingManager)

/-- The actor without its maps: what only the end of the meeting changes. -/
def settings : MeetingActor :=
  { m with participants := ∅, connections := ∅, correlationToParticipant := ∅, storedBindings := ∅ }

theorem handleDisconnect_settings (now : ℕ) (connectionId participantId : String) :
    (m.handleDisconnect now connectionId participantId).actor.settings = m.settings := by
  unfold handleDisconnect
  cases m.participants.lookup participantId <;> rfl

theorem handleSelfMute_settings (participantId : String) (audioMuted videoMuted : Bool) :
    (m.handleSelfMute participantId audioMuted videoMuted).actor.settings = m.settings := by
  unfold handleSelfMute
  cases m.participants.lookup participantId <;> rfl

theorem handleJoin_settings (now : ℕ) (draw : Draw) (connectionId userId p : String)
    (isHost : Bool) :
    (m.handleJoin R now draw connectionId userId p isHost).actor.settings = m.settings := by
  unfold handleJoin
  split_ifs <;> rfl

theorem handleReconnect_settings (now : ℕ) (draw : Draw) (connectionId c token : String) :
    (m.handleReconnect R now draw connectionId c token).actor.settings = m.settings := by
  unfold handleReconnect
  cases m.storedBindings.lookup c with
  | none => rfl
  | some stored =>
    dsimp only
    split_ifs
    · rfl
    · rfl
    · cases m.correlationToParticipant.lookup c with
      | none => rfl
      | some p =>
        dsimp only
        cases m.participants.lookup p <;> rfl

theorem handleLeave_settings (p : String) : (m.handleLeave p).actor.settings = m.settings := by
  unfold handleLeave
  cases m.participants.lookup p <;> rfl

theorem handleHostMute_settings (target mutedBy : String) (audioMuted videoMuted : Bool) :
    (m.handleHostMute target mutedBy audioMuted videoMuted).actor.settings = m.settings := by
  unfold handleHostMute
  dsimp only
  split_ifs
  · rfl
  · cases m.participants.lookup target <;> rfl

theorem handleSignaling_settings (p : String) (message : SignalingPayload) :
    (m.handleSignaling p message).actor.settings = m.settings := by
  unfold handleSignaling
  split_ifs
  · cases message with
    | muteUpdate audioMuted videoMuted => exact m.handleSelfMute_settings ..
    | layoutSubscribe _ => rfl
    | chat _ => rfl
    | raw _ _ => rfl
  · rfl

theorem checkDisconnectTimeouts_settings (now : ℕ) :
    (m.checkDisconnectTimeouts now).actor.settings = m.settings := by
  suffices h : ∀ (ps : List String) (h₀ : Handled Unit),
      (ps.foldl removeTimedOut h₀).actor.settings = h₀.actor.settings from h _ _
  intro ps
  induction ps with
  | nil => intro h₀; rfl
  | cons p ps ih =>
    intro h₀
    rw [List.foldl_cons, ih, removeTimedOut]
    cases h₀.actor.participants.lookup p <;> rfl

theorem checkConnectionHealth_settings (now : ℕ) (finished : List (String × Bool)) :
    (m.checkConnectionHealth now finished).actor.settings = m.settings := by
  suffices h : ∀ h₀ : Handled Unit,
      (finished.foldl (reapConnection now) h₀).actor.settings = h₀.actor.settings from h _
  induction finished with
  | nil => intro h₀; rfl
  | cons task finished ih =>
    intro h₀
    rw [List.foldl_cons, ih, reapConnection]
    cases h₀.actor.connections.lookup task.1 with
    | none => rfl
    | some managed => exact handleDisconnect_settings ..

/-- No event but the end of the meeting or of the loop changes more than the maps. -/
theorem handle_settings (e : MeetingEvent) :
    (m.handle R e).actor.settings = m.settings ∨
      (m.handle R e).actor.settings = m.handleEndMeeting.actor.settings ∨
      (m.handle R e).actor.settings = m.gracefulShutdown.actor.settings := by
  cases e with
  | message now draw depth message =>
    cases message with
    | connectionJoin connectionId userId p isHost => exact .inl (m.handleJoin_settings ..)
    | connectionDisconnected connectionId p => exact .inl (m.handleDisconnect_settings ..)
    | connectionReconnect connectionId c token => exact .inl (m.handleReconnect_settings ..)
    | participantLeave p => exact .inl (m.handleLeave_settings ..)
    | signalingMessage p message => exact .inl (m.handleSignaling_settings ..)
    | getState => exact .inl rfl
    | updateSelfMute p audioMuted videoMuted => exact .inl (m.handleSelfMute_settings ..)
    | hostMute target mutedBy audioMuted videoMuted => exact .inl (m.handleHostMute_settings ..)
    | endMeeting reason => exact .inr (.inl rfl)
  | tick now => exact .inl (m.checkDisconnectTimeouts_settings now)
  | health now finished => exact .inl (m.checkConnectionHealth_settings now finished)
  | shutdown now => exact .inr (.inr rfl)

theorem handle_config (e : MeetingEvent) : (m.handle R e).actor.config = m.config := by
  obtain h | h | h := m.handle_settings (R := R) e <;> exact (congrArg config h :)

/-- Once the meeting is shutting down it stays so. -/
theorem handle_isShuttingDown (e : MeetingEvent) (hm : m.isShuttingDown = true) :
    (m.handle R e).actor.isShuttingDown = true := by
  obtain h | h | h := m.handle_settings (R := R) e
  · exact (congrArg isShuttingDown h :).trans hm
  · exact (congrArg isShuttingDown h :)
  · exact (congrArg isShuttingDown h :)

end MeetingActor

/-! ## Bindings and the history -/

/-- The latest binding handed out to a participant. -/
def latestIssue (h : MeetingHistory) (p : String) : Option Issue :=
  (issues h).find? fun i => i.participantId = p

/-- The stored binding `b` is what was handed out as `i`. -/
def Records (R : Ring) (m : MeetingActor) (b : StoredBinding) (i : Issue) : Prop :=
  b.participantId = i.participantId ∧ b.createdAt = i.issuedAt ∧
    ∃ nonceBytes, (i.bindingToken, b.nonce) =
      m.bindingManager.generateToken R m.meetingId i.correlationId i.participantId nonceBytes

theorem latestIssue_cons_of_none {x : MeetingEvent × MeetingActor.Reply × List Effect}
    {h : MeetingHistory} (hx : issueOf x = none) (p : String) :
    latestIssue (x :: h) p = latestIssue h p := by
  simp [latestIssue, issues_cons, hx]

theorem latestIssue_cons_of_some {x : MeetingEvent × MeetingActor.Reply × List Effect}
    {h : MeetingHistory} {i : Issue} (hx : issueOf x = some i) (p : String) :
    latestIssue (x :: h) p = if i.participantId = p then some i else latestIssue h p := by
  simp only [latestIssue, issues_cons, hx, Option.toList_some, List.singleton_append,
    List.find?_cons]
  by_cases hp : i.participantId = p <;> simp [hp]

theorem mem_of_latestIssue {h : MeetingHistory} {p : String} {i : Issue}
    (hi : latestIssue h p = some i) : i ∈ issues h ∧ i.participantId = p :=
  ⟨List.mem_of_find?_eq_some hi, by simpa using List.find?_some hi⟩

/-- The register and the bindings handed out so far. -/
structure Ledger (R : Ring) (h : MeetingHistory) (m : MeetingActor) : Prop where
  /-- No correlation id was handed out twice. -/
  distinct : ((issues h).map (·.correlationId)).Nodup
  /-- A participant holds the key of its latest binding. -/
  latest : ∀ p c, m.registry.key p = some c → ∃ i, latestIssue h p = some i ∧ i.correlationId = c
  /-- A stored binding was handed out. -/
  recorded : ∀ c b, m.registry.binding c = some b →
    ∃ i ∈ issues h, i.correlationId = c ∧ Records R m b i
  /-- The binding of a participant is stored, or has been seen expired. -/
  stored : ∀ p c i, m.registry.key p = some c → latestIssue h p = some i →
    m.registry.binding c ≠ none ∨ ∃ x ∈ h, bindingTokenTtl < x.1.now - i.issuedAt

section Ledger

variable {h : MeetingHistory} {m m' : MeetingActor}
  {x : MeetingEvent × MeetingActor.Reply × List Effect}

theorem records_of_config (hc : m'.config = m.config) {b : StoredBinding} {i : Issue}
    (hrec : Records R m b i) : Records R m' b i := by
  have h1 : m'.meetingId = m.meetingId := congrArg Prod.fst hc
  have h2 : m'.bindingManager = m.bindingManager := congrArg Prod.snd hc
  unfold Records at hrec ⊢
  rwa [h1, h2]

/-- A step that hands out nothing keeps the ledger if it only takes keys and
    bindings away, and takes the binding of a participant that stays only when
    it has expired. -/
theorem Ledger.cons_of_none (hl : Ledger R h m) (hx : issueOf x = none)
    (hc : m'.config = m.config)
    (hkey : ∀ p c, m'.registry.key p = some c → m.registry.key p = some c)
    (hbinding : ∀ c b, m'.registry.binding c = some b → m.registry.binding c = some b)
    (hstored : ∀ p c i, m'.registry.key p = some c → latestIssue h p = some i →
      m.registry.binding c ≠ none →
        m'.registry.binding c ≠ none ∨ bindingTokenTtl < x.1.now - i.issuedAt) :
    Ledger R (x :: h) m' := by
  have hissues : issues (x :: h) = issues h := by simp [issues_cons, hx]
  refine ⟨by rw [hissues]; exact hl.distinct, fun p c hp => ?_, fun c b hb => ?_,
    fun p c i hp hi => ?_⟩
  · rw [latestIssue_cons_of_none hx]
    exact hl.latest p c (hkey p c hp)
  · obtain ⟨i, hi, hic, hrec⟩ := hl.recorded c b (hbinding c b hb)
    exact ⟨i, hissues ▸ hi, hic, records_of_config hc hrec⟩
  · rw [latestIssue_cons_of_none hx] at hi
    rcases hl.stored p c i (hkey p c hp) hi with hb | ⟨y, hy, hold⟩
    · rcases hstored p c i hp hi hb with hb | hold
      · exact Or.inl hb
      · exact Or.inr ⟨x, List.mem_cons_self, hold⟩
    · exact Or.inr ⟨y, List.mem_cons_of_mem _ hy, hold⟩

/-- A step that hands out the binding `i` keeps the ledger if it records `i`
    and leaves the keys and bindings of the other participants alone. -/
theorem Ledger.cons_of_some (hl : Ledger R h m) {i : Issue} (hx : issueOf x = some i)
    (hc : m'.config = m.config) (hfresh : ∀ j ∈ issues h, j.correlationId ≠ i.correlationId)
    (hkey : ∀ p c, m'.registry.key p = some c →
      (p = i.participantId ∧ c = i.correlationId) ∨
        (p ≠ i.participantId ∧ m.registry.key p = some c))
    (hbinding : ∀ c b, m'.registry.binding c = some b →
      (c = i.correlationId ∧ Records R m b i) ∨ m.registry.binding c = some b)
    (hnew : m'.registry.binding i.correlationId ≠ none)
    (hothers : ∀ p c, p ≠ i.participantId → m.registry.key p = some c →
      m.registry.binding c ≠ none → m'.registry.binding c ≠ none) :
    Ledger R (x :: h) m' := by
  have hissues : issues (x :: h) = i :: issues h := by simp [issues_cons, hx]
  refine ⟨?_, fun p c hp => ?_, fun c b hb => ?_, fun p c j hp hj => ?_⟩
  · rw [hissues, List.map_cons, List.nodup_cons]
    refine ⟨fun hmem => ?_, hl.distinct⟩
    obtain ⟨j, hj, hjc⟩ := List.mem_map.mp hmem
    exact hfresh j hj hjc
  · rw [latestIssue_cons_of_some hx]
    rcases hkey p c hp with ⟨rfl, rfl⟩ | ⟨hne, hp⟩
    · exact ⟨i, by simp, rfl⟩
    · rw [if_neg (Ne.symm hne)]
      exact hl.latest p c hp
  · rw [hissues]
    rcases hbinding c b hb with ⟨rfl, hrec⟩ | hb
    · exact ⟨i, List.mem_cons_self, rfl, records_of_config hc hrec⟩
    · obtain ⟨j, hj, hjc, hrec⟩ := hl.recorded c b hb
      exact ⟨j, List.mem_cons_of_mem _ hj, hjc, records_of_config hc hrec⟩
  · rw [latestIssue_cons_of_some hx] at hj
    rcases hkey p c hp with ⟨rfl, rfl⟩ | ⟨hne, hp⟩
    · exact Or.inl hnew
    · rw [if_neg (Ne.symm hne)] at hj
      rcases hl.stored p c j hp hj with hb | ⟨y, hy, hold⟩
      · exact Or.inl (hothers p c hne hp hb)
      · exact Or.inr ⟨y, List.mem_cons_of_mem _ hy, hold⟩

/-- In a ledger a binding handed out under a key is the one recorded there. -/
theorem Ledger.unique (hl : Ledger R h m) {i j : Issue} (hi : i ∈ issues h) (hj : j ∈ issues h)
    (hij : i.correlationId = j.correlationId) : i = j :=
  List.inj_on_of_nodup_map hl.distinct hi hj hij

/-- The binding stored under a participant's key is its latest. -/
theorem Ledger.records_of_key (hl : Ledger R h m) {p c : String} {i : Issue} {b : StoredBinding}
    (hp : m.registry.key p = some c) (hi : latestIssue h p = some i)
    (hb : m.storedBindings.lookup c = some b) : Records R m b i := by
  obtain ⟨i', hi', hic⟩ := hl.latest p c hp
  obtain ⟨j, hj, hjc, hrec⟩ := hl.recorded c b hb
  rw [hi, Option.some.injEq] at hi'
  subst hi'
  exact hl.unique (mem_of_latestIssue hi).1 hj (hic.trans hjc.symm) ▸ hrec

theorem records_issueBinding (draw : Draw) (p userId : String) (now : ℕ) :
    Records R m (m.issueBinding R draw p userId now)
      ⟨p, draw.correlationId, (m.issueBinding R draw p userId now).bindingToken, now⟩ :=
  ⟨rfl, rfl, draw.nonceBytes, rfl⟩

/-- Every event keeps the ledger. -/
theorem ledger_step {e : MeetingEvent}
    (hr : (meetingMachine R meetingId mgr createdAt).Run h m)
    (ha : (meetingMachine R meetingId mgr createdAt).allowed h m e) (hl : Ledger R h m) :
    Ledger R ((e, (m.handle R e).result, (m.handle R e).effects) :: h) (m.handle R e).actor := by
  have hc := m.handle_config (R := R) e
  obtain ⟨ho, hk⟩ := run_owned hr
  cases MeetingActor.handle_registry (R := R) (m := m) e with
  | keep _ hreg hissue =>
    refine hl.cons_of_none hissue hc ?_ ?_ ?_
    · rw [hreg]; exact fun p c hp => hp
    · rw [hreg]; exact fun c b hb => hb
    · rw [hreg]; exact fun p c i _ _ hb => Or.inl hb
  | join now draw depth connectionId userId p isHost he hp hreg hissue =>
    subst he
    have hfresh := ha.2 draw rfl
    refine hl.cons_of_some hissue hc hfresh ?_ ?_ ?_ ?_ <;> rw [hreg]
    · exact fun q d hq => Registry.issue_key_eq_some hq
    · intro d b hb
      rcases Registry.issue_binding_eq_some hb with ⟨rfl, rfl⟩ | hold
      · exact Or.inl ⟨rfl, records_issueBinding draw p userId now⟩
      · exact Or.inr hold
    · simp [Registry.issue_binding_self]
    · intro q d _ hq hb
      rwa [Registry.issue_binding_of_ne (hk.ne_of_key ho hq hfresh)]
  | reconnect now draw depth connectionId c token stored p participant he _ _ _ howner _ hreg _
      hissue =>
    subst he
    have hfresh := ha.2 draw rfl
    have hpc := (ho p c).mpr howner
    refine hl.cons_of_some hissue hc hfresh ?_ ?_ ?_ ?_ <;> rw [hreg]
    · exact fun q d hq => Registry.rotate_key_eq_some hq
    · intro d b hb
      rcases Registry.rotate_binding_eq_some hb with ⟨rfl, rfl⟩ | hold
      · exact Or.inl ⟨rfl, records_issueBinding draw p participant.userId now⟩
      · exact Or.inr hold
    · simp [Registry.rotate_binding_self]
    · intro q d hqp hq hb
      have hdc : d ≠ c := by
        rintro rfl
        exact hqp (ho.key_injective hq hpc)
      rwa [Registry.rotate_binding_of_ne hdc (hk.ne_of_key ho hq hfresh)]
  | expired now draw depth connectionId c token stored he hstored hexpired hreg hissue =>
    subst he
    refine hl.cons_of_none hissue hc ?_ ?_ ?_ <;> rw [hreg]
    · exact fun q d hq => hq
    · exact fun d b hb => Registry.drop_binding_eq_some hb
    · intro q d i hq hi hb
      by_cases hdc : d = c
      · -- the dropped binding is the participant's latest, and it has expired
        subst hdc
        right
        have hrec := hl.records_of_key hq hi hstored
        simpa [StoredBinding.isExpired, hrec.2.1, MeetingEvent.now] using hexpired
      · left
        rwa [Registry.drop_binding_of_ne hdc]
  | leave now draw depth p participant he hp hreg hissue =>
    subst he
    refine hl.cons_of_none hissue hc ?_ ?_ ?_ <;> rw [hreg]
    · exact fun q d hq => (Registry.vacate_key_eq_some hq).2
    · intro d b hb
      have hold := Registry.drop_binding_eq_some hb
      rwa [Registry.vacate_binding] at hold
    · intro q d i hq hi hb
      obtain ⟨hqp, hq⟩ := Registry.vacate_key_eq_some hq
      have hdc : d ≠ participant.correlationId := by
        rintro rfl
        exact hqp (ho.key_injective hq (MeetingActor.key_of_lookup hp))
      left
      rwa [Registry.drop_binding_of_ne hdc, Registry.vacate_binding]
  | tick now he hreg hissue =>
    refine hl.cons_of_none hissue hc ?_ ?_ ?_ <;> rw [hreg]
    · exact fun q d hq => (Registry.vacateAll_key_eq_some hq).2
    · intro d b hb
      rwa [Registry.vacateAll_binding] at hb
    · intro q d i hq hi hb
      left
      rwa [Registry.vacateAll_binding]

theorem run_ledger (hr : (meetingMachine R meetingId mgr createdAt).Run h m) : Ledger R h m := by
  refine Machine.Run.invariant (I := Ledger R) ?_ (fun h m e hr ha hl => ledger_step hr ha hl) hr
  constructor <;>
    simp [meetingMachine, MeetingActor.spawn, MeetingActor.registry, issues]

end Ledger

/-! ## One reconnect -/

section Reconnect

variable {h : MeetingHistory} {m : MeetingActor} (now : ℕ) (draw : Draw)
  (connectionId c token : String)

/-- The lookups a successful reconnect went through. -/
theorem handleReconnect_ok {r : ReconnectResult}
    (hok : (m.handleReconnect R now draw connectionId c token).result = .ok r) :
    ∃ stored participant, m.storedBindings.lookup c = some stored ∧
      stored.isExpired now = false ∧
      m.bindingManager.validateToken R m.meetingId c stored.participantId stored.nonce token =
        true ∧
      m.correlationToParticipant.lookup c = some r.participantId ∧
      m.participants.lookup r.participantId = some participant := by
  unfold MeetingActor.handleReconnect at hok
  cases hstored : m.storedBindings.lookup c with
  | none => simp [hstored] at hok
  | some stored =>
    simp only [hstored] at hok
    split_ifs at hok with hexp hvalid
    cases howner : m.correlationToParticipant.lookup c with
    | none => simp [howner] at hok
    | some p =>
      simp only [howner] at hok
      cases hp : m.participants.lookup p with
      | none => simp [hp] at hok
      | some participant =>
        simp only [hp, Except.ok.injEq] at hok
        subst hok
        exact ⟨stored, participant, rfl, by simpa using hexp, by simpa using hvalid, rfl, hp⟩

/-- When all lookups succeed, so does the reconnect. -/
theorem handleReconnect_isOk {stored : StoredBinding} {p : String} {participant : Participant}
    (hstored : m.storedBindings.lookup c = some stored) (hexp : stored.isExpired now = false)
    (hvalid : m.bindingManager.validateToken R m.meetingId c stored.participantId stored.nonce
      token = true)
    (howner : m.correlationToParticipant.lookup c = some p)
    (hp : m.participants.lookup p = some participant) :
    ∃ r, (m.handleReconnect R now draw connectionId c token).result = .ok r := by
  simp [MeetingActor.handleReconnect, hstored, hexp, hvalid, howner, hp]

/-- A failed reconnect changes nothing, except that an expired binding that
    was presented is dropped. -/
theorem handleReconnect_error {err : McError}
    (herr : (m.handleReconnect R now draw connectionId c token).result = .error err) :
    (m.handleReconnect R now draw connectionId c token).actor = m ∨
      ∃ stored, m.storedBindings.lookup c = some stored ∧ stored.isExpired now = true ∧
        (m.handleReconnect R now draw connectionId c token).actor =
          { m with storedBindings := m.storedBindings.erase c } := by
  unfold MeetingActor.handleReconnect at herr ⊢
  cases hstored : m.storedBindings.lookup c with
  | none => exact Or.inl rfl
  | some stored =>
    simp only [hstored] at herr ⊢
    split_ifs at herr ⊢ with hexp hvalid
    · exact Or.inr ⟨stored, rfl, hexp, rfl⟩
    · exact Or.inl rfl
    · cases howner : m.correlationToParticipant.lookup c with
      | none => exact Or.inl rfl
      | some p =>
        simp only [howner] at herr ⊢
        cases hp : m.participants.lookup p with
        | none => exact Or.inl rfl
        | some participant => simp [hp] at herr

/-- A token accepted for a stored binding is, as bytes, the token handed out. -/
theorem sameToken_of_validateToken {b : StoredBinding} {i : Issue} (hrec : Records R m b i)
    (hvalid : m.bindingManager.validateToken R m.meetingId i.correlationId b.participantId b.nonce
      token = true) : SameToken token i.bindingToken := by
  obtain ⟨hp, _, nonceBytes, htoken⟩ := hrec
  obtain ⟨h1, h2⟩ := Prod.mk.inj htoken
  rw [hp, h2] at hvalid
  rw [h1]
  exact (validateToken_iff ..).mp hvalid

/-- The token handed out is accepted for its stored binding. -/
theorem validateToken_of_records {b : StoredBinding} {i : Issue} (hrec : Records R m b i) :
    m.bindingManager.validateToken R m.meetingId i.correlationId b.participantId b.nonce
      i.bindingToken = true := by
  obtain ⟨hp, _, nonceBytes, htoken⟩ := hrec
  obtain ⟨h1, h2⟩ := Prod.mk.inj htoken
  rw [hp, h2, h1]
  exact (validateToken_iff ..).mpr (sameToken_generateToken ..)

/-- What a successful reconnect presented. -/
theorem reconnect_presented (hr : (meetingMachine R meetingId mgr createdAt).Run h m)
    {r : ReconnectResult}
    (hok : (m.handleReconnect R now draw connectionId c token).result = .ok r) :
    r.participantId ∈ m.participants ∧
      ∃ i, latestIssue h r.participantId = some i ∧ i.correlationId = c ∧
        SameToken token i.bindingToken ∧ now - i.issuedAt ≤ bindingTokenTtl := by
  obtain ⟨stored, participant, hstored, hlive, hvalid, howner, hp⟩ :=
    handleReconnect_ok now draw connectionId c token hok
  have hl := run_ledger hr
  have hkey := ((run_owned hr).1 _ _).mpr howner
  obtain ⟨i, hi, hic⟩ := hl.latest _ _ hkey
  have hrec := hl.records_of_key hkey hi hstored
  refine ⟨AList.lookup_isSome.mp (by simp [hp]), i, hi, hic, ?_, ?_⟩
  · rw [← hic] at hvalid
    exact sameToken_of_validateToken token hrec hvalid
  · simp only [StoredBinding.isExpired, decide_eq_false_iff_not, hrec.2.1] at hlive
    omega

end Reconnect

/-! ## No binding is used twice -/

/-- The correlation id that a successful reconnect presented. -/
def reconnectedOf : MeetingEvent × MeetingActor.Reply × List Effect → Option String
  | (.message _ _ _ (.connectionReconnect _ c _), .reconnect (.ok _), _) => some c
  | _ => none

/-- The correlation ids presented by the successful reconnects of a history. -/
def reconnected (h : MeetingHistory) : List String := h.filterMap reconnectedOf

theorem reconnectedOf_of_issueOf_none {x : MeetingEvent × MeetingActor.Reply × List Effect}
    (hx : issueOf x = none) : reconnectedOf x = none := by
  unfold issueOf at hx
  unfold reconnectedOf
  split <;> simp_all

/-- The keys of successful reconnects were handed out, are used up and are
    pairwise distinct. -/
structure Spent (h : MeetingHistory) (m : MeetingActor) : Prop where
  nodup : (reconnected h).Nodup
  used : ∀ c ∈ reconnected h, m.registry.owner c = none ∧ ∃ i ∈ issues h, i.correlationId = c

/-- A step without a successful reconnect keeps `Spent` if it gives no owner to
    a key that was handed out before. -/
theorem Spent.cons_of_none {h : MeetingHistory} {m m' : MeetingActor}
    {x : MeetingEvent × MeetingActor.Reply × List Effect} (hs : Spent h m)
    (hx : reconnectedOf x = none)
    (howner : ∀ c, (∃ i ∈ issues h, i.correlationId = c) → m.registry.owner c = none →
      m'.registry.owner c = none) : Spent (x :: h) m' := by
  have hsame : reconnected (x :: h) = reconnected h := by simp [reconnected, hx]
  refine ⟨by rw [hsame]; exact hs.nodup, fun c hc => ?_⟩
  rw [hsame] at hc
  obtain ⟨hnone, i, hi, hic⟩ := hs.used c hc
  exact ⟨howner c ⟨i, hi, hic⟩ hnone, i, mem_issues_cons_of_mem hi, hic⟩

theorem spent_step {h : MeetingHistory} {m : MeetingActor} {e : MeetingEvent}
    (hr : (meetingMachine R meetingId mgr createdAt).Run h m)
    (ha : (meetingMachine R meetingId mgr createdAt).allowed h m e) (hs : Spent h m) :
    Spent ((e, (m.handle R e).result, (m.handle R e).effects) :: h) (m.handle R e).actor := by
  cases MeetingActor.handle_registry (R := R) (m := m) e with
  | keep _ hreg hissue =>
    refine hs.cons_of_none (reconnectedOf_of_issueOf_none hissue) fun d _ hd => ?_
    rwa [hreg]
  | join now draw depth connectionId userId p isHost he _ hreg _ =>
    subst he
    refine hs.cons_of_none rfl fun d ⟨i, hi, hid⟩ hd => ?_
    rw [hreg, Registry.issue_owner_of_ne fun hdd => ha.2 draw rfl i hi (hid.trans hdd)]
    exact hd
  | reconnect now draw depth connectionId c token stored p participant he _ _ _ howner _ hreg
      hresult hissue =>
    subst he
    obtain ⟨r, hresult, _⟩ := hresult
    have hsame : reconnected ((.message now draw depth (.connectionReconnect connectionId c token),
        (m.handle R (.message now draw depth (.connectionReconnect connectionId c token))).result,
        (m.handle R (.message now draw depth (.connectionReconnect connectionId c token))).effects)
          :: h) = c :: reconnected h := by
      simp [reconnected, reconnectedOf, hresult]
    have hfresh := ha.2 draw rfl
    obtain ⟨i, hi, hic⟩ := (run_owned hr).2 c (Or.inl (by simp [MeetingActor.registry, howner]))
    refine ⟨?_, fun d hd => ?_⟩
    · rw [hsame, List.nodup_cons]
      refine ⟨fun hmem => ?_, hs.nodup⟩
      have hnone := (hs.used c hmem).1
      simp [MeetingActor.registry, howner] at hnone
    · rw [hsame] at hd
      have hd' : (d = c ∨ m.registry.owner d = none) ∧ ∃ j ∈ issues h, j.correlationId = d := by
        rcases List.mem_cons.mp hd with rfl | hd
        · exact ⟨Or.inl rfl, i, hi, hic⟩
        · exact ⟨Or.inr (hs.used d hd).1, (hs.used d hd).2⟩
      obtain ⟨hold, j, hj, hjd⟩ := hd'
      refine ⟨?_, j, mem_issues_cons_of_mem hj, hjd⟩
      rw [hreg]
      exact Registry.rotate_owner_eq_none (fun hdd => hfresh j hj (hjd.trans hdd)) hold
  | expired now draw depth connectionId c token stored _ _ _ hreg hissue =>
    refine hs.cons_of_none (reconnectedOf_of_issueOf_none hissue) fun d _ hd => ?_
    rw [hreg]
    exact hd
  | leave now draw depth p participant _ _ hreg hissue =>
    refine hs.cons_of_none (reconnectedOf_of_issueOf_none hissue) fun d _ hd => ?_
    rw [hreg]
    exact Registry.vacate_owner_eq_none hd
  | tick now _ hreg hissue =>
    refine hs.cons_of_none (reconnectedOf_of_issueOf_none hissue) fun d _ hd => ?_
    rw [hreg]
    exact Registry.vacateAll_owner_eq_none hd

theorem run_spent {h : MeetingHistory} {m : MeetingActor}
    (hr : (meetingMachine R meetingId mgr createdAt).Run h m) : Spent h m := by
  refine Machine.Run.invariant (I := Spent) ?_ (fun h m e hr ha hs => spent_step hr ha hs) hr
  exact ⟨List.nodup_nil, fun c hc => absurd hc List.not_mem_nil⟩

/-! ## Authority -/

/-- What a reconnect attempt must satisfy in a state reached by `h`: it
    succeeds only with the latest binding of a present participant, no older
    than 30 s, and a failure changes no map but drops an expired binding. -/
def ReconnectAuthorized (R : Ring) (SameText : String → String → Prop) (h : MeetingHistory)
    (m : MeetingActor) (now : ℕ) (draw : Draw) (connectionId c token : String) : Prop :=
  match (m.handleReconnect R now draw connectionId c token).result with
  | .ok r => r.participantId ∈ m.participants ∧
      ∃ i, latestIssue h r.participantId = some i ∧ i.correlationId = c ∧
        SameText token i.bindingToken ∧ now - i.issuedAt ≤ bindingTokenTtl
  | .error _ =>
    (m.handleReconnect R now draw connectionId c token).actor = m ∨
      ∃ stored, m.storedBindings.lookup c = some stored ∧ stored.isExpired now = true ∧
        (m.handleReconnect R now draw connectionId c token).actor =
          { m with storedBindings := m.storedBindings.erase c }

/-- In every reachable state a reconnect needs the latest binding of a present
    participant, presented within 30 s with its token, the hex digits in either
    case; over the whole run no binding is used twice; a failed reconnect
    changes at most an expired binding. -/
theorem reconnect_authority {h : MeetingHistory} {m : MeetingActor}
    (hr : (meetingMachine R meetingId mgr createdAt).Run h m) :
    (reconnected h).Nodup ∧ ∀ now draw connectionId c token,
      ReconnectAuthorized R SameToken h m now draw connectionId c token := by
  refine ⟨(run_spent hr).nodup, fun now draw connectionId c token => ?_⟩
  unfold ReconnectAuthorized
  cases hres : (m.handleReconnect R now draw connectionId c token).result with
  | ok r => exact reconnect_presented now draw connectionId c token hr hres
  | error err => exact handleReconnect_error now draw connectionId c token hres

/-- A join at 0 s. -/
def joinEvents : List MeetingEvent :=
  [.message 0 sampleDraw₁ 0 (.connectionJoin "conn-1" "user-1" "part-1" false)]

theorem reconnect_authority_join :
    sampleMeeting.Run (sampleMeeting.playAll joinEvents).2
        (sampleMeeting.playAll joinEvents).1 ∧
      (reconnected (sampleMeeting.playAll joinEvents).2).Nodup ∧
        ∀ now draw connectionId c token,
          ReconnectAuthorized Ring.sample SameToken (sampleMeeting.playAll joinEvents).2
            (sampleMeeting.playAll joinEvents).1 now draw connectionId c token :=
  have hr := Machine.run_of_admits (M := sampleMeeting) (l := joinEvents) (by decide)
  ⟨hr, reconnect_authority hr⟩

/-- The token of `sampleDraw₁` in upper-case digits. -/
def upperToken : String := "8E6407357E4899FCE0B8A87F57FD9247D4F6044589BB2D6C0998B97050BBF434"

/-- A reconnect succeeds with a text that was not handed out: the token of the
    join in upper case. -/
theorem upperToken_accepted :
    sampleMeeting.Run (sampleMeeting.playAll joinEvents).2
        (sampleMeeting.playAll joinEvents).1 ∧
      ¬ ReconnectAuthorized Ring.sample (· = ·) (sampleMeeting.playAll joinEvents).2
        (sampleMeeting.playAll joinEvents).1 (fromSecs 1) sampleDraw₂ "conn-2"
        sampleDraw₁.correlationId upperToken := by
  refine ⟨Machine.run_of_admits (by decide), fun hauth => ?_⟩
  have hok : ((sampleMeeting.playAll joinEvents).1.handleReconnect Ring.sample (fromSecs 1)
      sampleDraw₂ "conn-2" sampleDraw₁.correlationId upperToken).result.isOk = true := by decide
  have htext : ∀ i ∈ issues (sampleMeeting.playAll joinEvents).2,
      i.bindingToken ≠ upperToken := by decide
  unfold ReconnectAuthorized at hauth
  cases hres : ((sampleMeeting.playAll joinEvents).1.handleReconnect Ring.sample (fromSecs 1)
      sampleDraw₂ "conn-2" sampleDraw₁.correlationId upperToken).result with
  | ok r =>
    rw [hres] at hauth
    obtain ⟨_, i, hi, _, htoken, _⟩ := hauth
    exact htext i (mem_of_latestIssue hi).1 htoken.symm
  | error err => simp [hres, Except.isOk, Except.toBool] at hok

/-! ## Reconnecting within the grace period -/

/-- At `now` the participant `p` is present and has been disconnected for less
    than the grace period. -/
def InGracePeriod (m : MeetingActor) (p : String) (now : ℕ) : Prop :=
  ∃ participant disconnectedAt, m.participants.lookup p = some participant ∧
    participant.status = .disconnected ∧ participant.disconnectedAt = some disconnectedAt ∧
    now - disconnectedAt < disconnectGracePeriod

/-- A participant that lost its connection less than the grace period ago and
    presents its latest binding is let back in iff the binding was issued at
    most 30 s ago. -/
theorem reconnect_in_grace_iff {h : MeetingHistory} {m : MeetingActor}
    (hr : (meetingMachine R meetingId mgr createdAt).Run h m)
    {p : String} {i : Issue} {now : ℕ} {draw : Draw} {depth : ℕ} {connectionId : String}
    (hg : InGracePeriod m p now) (hi : latestIssue h p = some i)
    (ha : (meetingMachine R meetingId mgr createdAt).allowed h m
      (.message now draw depth (.connectionReconnect connectionId i.correlationId i.bindingToken))) :
    (∃ r, (m.handleReconnect R now draw connectionId i.correlationId i.bindingToken).result =
        .ok r) ↔ now - i.issuedAt ≤ bindingTokenTtl := by
  obtain ⟨participant, _, hp, _⟩ := hg
  have hl := run_ledger hr
  have hkey := MeetingActor.key_of_lookup hp
  obtain ⟨i', hi', hic⟩ := hl.latest p _ hkey
  rw [hi, Option.some.injEq] at hi'
  subst hi'
  rw [← hic] at hkey
  have howner := ((run_owned hr).1 _ _).mp hkey
  constructor
  · rintro ⟨r, hres⟩
    obtain ⟨_, j, hj, hji, _, hage⟩ := reconnect_presented now draw connectionId _ _ hr hres
    have hij := hl.unique (mem_of_latestIssue hj).1 (mem_of_latestIssue hi).1 hji
    rwa [hij] at hage
  · intro hage
    -- the binding is still stored: nothing has seen it expired, as the clock does not go back
    have hstored : m.registry.binding i.correlationId ≠ none := by
      rcases hl.stored p _ i hkey hi with hb | ⟨x, hx, hold⟩
      · exact hb
      · have hclock := (ha.1 x hx).1
        simp only [MeetingEvent.now] at hclock hold
        omega
    obtain ⟨b, hb⟩ := Option.ne_none_iff_exists'.mp hstored
    have hrec := hl.records_of_key hkey hi hb
    refine handleReconnect_isOk now draw connectionId _ _ hb ?_
      (validateToken_of_records hrec) howner hp
    simp only [StoredBinding.isExpired, decide_eq_false_iff_not, hrec.2.1]
    omega

/-- A join at 0 s and the loss of the connection at `lost`. -/
def lossEvents (lost : ℕ) : List MeetingEvent :=
  [.message 0 sampleDraw₁ 0 (.connectionJoin "conn-1" "user-1" "part-1" false),
    .message lost sampleDraw₂ 0 (.connectionDisconnected "conn-1" "part-1")]

/-- What the join of `lossEvents` hands out. -/
def sampleIssue : Issue :=
  ⟨"part-1", sampleDraw₁.correlationId,
    "8e6407357e4899fce0b8a87f57fd9247d4f6044589bb2d6c0998b97050bbf434", 0⟩

/-- The participant of `lossEvents`, as the disconnect leaves it. -/
def lostParticipant (lost : ℕ) : Participant :=
  { participantId := "part-1", userId := "user-1", displayName := "Participant 1",
    correlationId := sampleDraw₁.correlationId, connection := none, status := .disconnected,
    disconnectedAt := some lost, audioSelfMuted := false, videoSelfMuted := false,
    audioHostMuted := false, videoHostMuted := false, isHost := false }

theorem reconnect_in_grace_soon :
    (∃ r, ((sampleMeeting.playAll (lossEvents (fromSecs 1))).1.handleReconnect Ring.sample
        (fromSecs 2) sampleDraw₂ "conn-2" sampleIssue.correlationId
        sampleIssue.bindingToken).result = .ok r) ↔
      fromSecs 2 - sampleIssue.issuedAt ≤ bindingTokenTtl :=
  have ha : sampleMeeting.allowed (sampleMeeting.playAll (lossEvents (fromSecs 1))).2
      (sampleMeeting.playAll (lossEvents (fromSecs 1))).1
      (.message (fromSecs 2) sampleDraw₂ 0 (.connectionReconnect "conn-2"
        sampleIssue.correlationId sampleIssue.bindingToken)) := by decide
  reconnect_in_grace_iff (p := "part-1")
    (Machine.run_of_admits (M := sampleMeeting) (l := lossEvents (fromSecs 1)) (by decide))
    ⟨lostParticipant (fromSecs 1), fromSecs 1, by decide⟩ (by decide) ha

/-- Connected for 31 s and back after one more second, a participant is refused. -/
theorem graceReconnect_refused :
    sampleMeeting.Run (sampleMeeting.playAll (lossEvents (fromSecs 31))).2
        (sampleMeeting.playAll (lossEvents (fromSecs 31))).1 ∧
      InGracePeriod (sampleMeeting.playAll (lossEvents (fromSecs 31))).1 "part-1" (fromSecs 32) ∧
      latestIssue (sampleMeeting.playAll (lossEvents (fromSecs 31))).2 "part-1" =
        some sampleIssue ∧
      sampleMeeting.allowed (sampleMeeting.playAll (lossEvents (fromSecs 31))).2
        (sampleMeeting.playAll (lossEvents (fromSecs 31))).1
        (.message (fromSecs 32) sampleDraw₂ 0
          (.connectionReconnect "conn-2" sampleIssue.correlationId sampleIssue.bindingToken)) ∧
      ((sampleMeeting.playAll (lossEvents (fromSecs 31))).1.handleReconnect Ring.sample
        (fromSecs 32) sampleDraw₂ "conn-2" sampleIssue.correlationId
        sampleIssue.bindingToken).result = .error (.sessionBinding .tokenExpired) :=
  ⟨Machine.run_of_admits (by decide), ⟨lostParticipant (fromSecs 31), fromSecs 31, by decide⟩,
    by decide, by decide, rfl⟩

end DarkTower.Mc
