import DarkTower.Gc.CreateMeeting
import DarkTower.Lib.Machine

/-!
# Does a meeting code name one meeting?

Concurrent calls of `create_meeting` (`gc-service/src/handlers/meetings.rs:125`) of any
organizations on the tables, from no meetings on. A call draws a code, counts the
meetings of its organization and commits its row; a code that its organization has
already is drawn again, `MAX_CODE_COLLISION_RETRIES` times in all. Other transactions
change the rows of meetings but not their keys.

* `codes_along_iff`: a code names one meeting, the one whose creator was given it, all
  along a run iff no row is committed with the code of a meeting of another
  organization (`TakesCode`).
* `sharedCode_lost`: two draws `62 ^ 12` apart, and a member of the second organization
  is refused by the meeting of the first.
-/

namespace DarkTower.Gc

open DarkTower.Common DarkTower.Lib
open DarkTower.Common.MeetingToken (MeetingTokenRequest GuestTokenRequest)

/-- Where a call of `create_meeting` is. -/
inductive CreatePc
  | idle
  /-- Before the draw of an attempt; the code of the meeting is open. -/
  | drawing (attempt : ℕ) (m : NewMeeting)
  /-- The statement has passed its count and not committed. -/
  | inserting (attempt : ℕ) (m : NewMeeting) (row : MeetingRow)
  | ended (result : Except GcError CreateMeetingResponse)

namespace CreatePc

/-- After a database error of an attempt. -/
def afterError (attempt : ℕ) (m : NewMeeting) (error : String) : CreatePc :=
  if isCodeCollision error then
    if attempt = maxCodeCollisionRetries - 1 then
      .ended (.error (.internal "Failed to generate unique meeting code"))
    else .drawing (attempt + 1) m
  else .ended (.error .database)

/-- After `create_meeting_with_limit_check` of an attempt. -/
def afterStatement (attempt : ℕ) (m : NewMeeting) :
    Except GcError (Option MeetingRow) → CreatePc
  | .ok (some row) => .ended (.ok (.ofRow row))
  | .ok none => .ended (.error (.forbidden "Organization meeting limit exceeded"))
  | .error _ => afterError attempt m uniqueViolation

end CreatePc

/-- The tables and the calls. -/
structure CreateSystem where
  tables : MeetingTables
  calls : ℕ → CreatePc

/-- A step of a `create_meeting` call, or of others. -/
inductive CreateEvent
  | create (call : ℕ) (claims : UserClaims) (body : Option CreateMeetingRequest)
      (secret : Option (List UInt8))
  /-- A code is drawn and the statement reads its snapshot; `meetingId` is the generated key. -/
  | attempt (call : ℕ) (bytes : Option CodeBytes) (now : ℤ) (meetingId : String)
  | commit (call : ℕ)
  /-- The statement of a call fails, maybe after it has committed. -/
  | fail (call : ℕ) (committed : Bool) (error : String)
  /-- Other transactions commit. -/
  | other (t : MeetingTables)

namespace CreateSystem

variable (parseUuid : String → Option String) (s : CreateSystem)

/-- A call moves on. -/
def moveTo (call : ℕ) (pc : CreatePc) : CreateSystem :=
  { s with calls := Function.update s.calls call pc }

/-- One event; an event that the call is not ready for does nothing. -/
def step : CreateEvent → CreateSystem
  | .create call claims body secret =>
    match s.calls call with
    | .idle =>
      match createMeetingChecks parseUuid claims body secret with
      | .ok m => s.moveTo call (.drawing 0 m)
      | .error e => s.moveTo call (.ended (.error e))
    | _ => s
  | .attempt call bytes now meetingId =>
    match s.calls call with
    | .drawing attempt m =>
      match generateMeetingCode bytes with
      | .ok code =>
        match s.tables.createMeetingWithLimitCheck now meetingId { m with meetingCode := code } with
        | some row => s.moveTo call (.inserting attempt m row)
        | none => s.moveTo call (.afterStatement attempt m (.ok none))
      | .error e => s.moveTo call (.ended (.error e))
    | _ => s
  | .commit call =>
    match s.calls call with
    | .inserting attempt m row =>
      { s.moveTo call (.afterStatement attempt m (s.tables.insertMeeting row).2) with
        tables := (s.tables.insertMeeting row).1 }
    | _ => s
  | .fail call committed error =>
    match s.calls call with
    | .drawing attempt m => s.moveTo call (.afterError attempt m error)
    | .inserting attempt m row =>
      { s.moveTo call (.afterError attempt m error) with
        tables := if committed then (s.tables.insertMeeting row).1 else s.tables }
    | _ => s
  | .other t => { s with tables := t }

end CreateSystem

/-- What no other transaction changes of a meeting. -/
def MeetingRow.key (m : MeetingRow) : String × String × String :=
  (m.meetingId, m.orgId, m.meetingCode)

/-- The rows of `organizations`. -/
abbrev Organizations := { o : List OrganizationRow // (o.map (·.orgId)).Nodup }

/-- The tables before the first meeting. -/
def MeetingTables.empty (o : Organizations) : MeetingTables where
  organizations := o.val
  meetings := []
  organizationKey := o.property
  meetingKey := List.nodup_nil
  codeKey := nodup_noKeys

/-- The creates of any organizations, from no meetings on. -/
def createMachine (parseUuid : String → Option String) (o : Organizations) :
    Machine CreateSystem CreateEvent Unit where
  init := ⟨.empty o, fun _ => .idle⟩
  step s e := (s.step parseUuid e, ())
  allowed _ s e :=
    match e with
    | .other t => (t.meetings.map (·.key)).Perm (s.tables.meetings.map (·.key))
    | _ => True

/-- The events so far, the last one first. -/
abbrev CreateHistory := List (CreateEvent × Unit)

/-- A code names one meeting: the lookup is satisfied by at most one row, and with the
    code that its creator was given it finds the meeting, in whatever order the server
    scans the table, and joins and guest tokens are for this meeting. -/
structure CodesName (parseUuid : String → Option String) (s : CreateSystem) : Prop where
  atMostOne : ∀ code, (s.tables.meetings.filter fun m => m.meetingCode = code).length ≤ 1
  reached : ∀ call response, s.calls call = .ended (.ok response) →
    ∀ rows, rows.Perm s.tables.meetings →
      (∃ m, findMeetingByCode rows response.meetingCode = .ok m ∧
        m.meetingId = response.meetingId) ∧
      (∀ claims token, joinMeeting parseUuid rows claims response.meetingCode = .ok token →
        token.meetingId = response.meetingId) ∧
      ∀ request guestId token,
        getGuestToken rows response.meetingCode request guestId = .ok token →
          token.meetingId = response.meetingId

/-- The row can be inserted and has the code of a meeting of another organization. -/
def MeetingTables.TakesCode (t : MeetingTables) (row : MeetingRow) : Prop :=
  t.Insertable row ∧ ∃ m ∈ t.meetings, m.orgId ≠ row.orgId ∧ m.meetingCode = row.meetingCode

instance (t : MeetingTables) (row : MeetingRow) : Decidable (t.TakesCode row) :=
  inferInstanceAs (Decidable (_ ∧ ∃ m ∈ t.meetings, _))

/-- The row that an event commits, if the constraints let it. -/
def CreateSystem.committedRow (s : CreateSystem) : CreateEvent → Option MeetingRow
  | .commit call | .fail call true _ =>
    match s.calls call with
    | .inserting _ _ row => some row
    | _ => none
  | _ => none

/-- A row is committed with the code of a meeting of another organization. -/
def TakesCode (s : CreateSystem) (e : CreateEvent) : Prop :=
  ∃ row ∈ s.committedRow e, s.tables.TakesCode row

instance (s : CreateSystem) (e : CreateEvent) : Decidable (TakesCode s e) :=
  inferInstanceAs (Decidable (∃ row ∈ s.committedRow e, s.tables.TakesCode row))

/-! ## The codes of the table -/

/-- No two meetings have one code. -/
def CodesDistinct (t : MeetingTables) : Prop := (t.meetings.map (·.meetingCode)).Nodup

theorem codesDistinct_iff (t : MeetingTables) : CodesDistinct t ↔
    ∀ code, (t.meetings.filter fun m => m.meetingCode = code).length ≤ 1 := by
  unfold CodesDistinct
  rw [List.nodup_iff_count_le_one]
  refine forall_congr' fun code => ?_
  rw [List.count, List.countP_map, List.countP_eq_length_filter]
  have hsame : ((· == code) ∘ fun m : MeetingRow => m.meetingCode) =
      fun m => decide (m.meetingCode = code) := by
    funext m
    exact beq_eq_decide _ _
  rw [hsame]

theorem codesDistinct_insertMeeting_iff {t : MeetingTables} (h : CodesDistinct t)
    (row : MeetingRow) : CodesDistinct (t.insertMeeting row).1 ↔ ¬ t.TakesCode row := by
  unfold MeetingTables.insertMeeting
  split_ifs with hins
  · show (row.meetingCode :: t.meetings.map (·.meetingCode)).Nodup ↔ _
    rw [List.nodup_cons]
    constructor
    · rintro ⟨hnew, _⟩ ⟨_, m, hm, _, hcode⟩
      exact hnew (List.mem_map.mpr ⟨m, hm, hcode⟩)
    · intro hno
      refine ⟨fun hmem => hno ⟨hins, ?_⟩, h⟩
      obtain ⟨m, hm, hcode⟩ := List.mem_map.mp hmem
      refine ⟨m, hm, fun horg => hins.2 ?_, hcode⟩
      exact List.mem_map.mpr ⟨m, hm, Prod.ext horg hcode⟩
  · exact iff_of_true h fun hins' => hins hins'.1

theorem codesDistinct_of_perm {t t' : MeetingTables}
    (hperm : (t'.meetings.map (·.key)).Perm (t.meetings.map (·.key))) (h : CodesDistinct t) :
    CodesDistinct t' := by
  have hcodes := hperm.map fun k => k.2.2
  rw [List.map_map, List.map_map] at hcodes
  exact hcodes.nodup_iff.mpr h

/-! ## What a step does -/

variable {parseUuid : String → Option String} {o : Organizations} {s : CreateSystem}
  {e : CreateEvent} {h : CreateHistory}

/-- The rows that were there stay there. -/
theorem insertMeeting_subset (t : MeetingTables) (row : MeetingRow) :
    t.meetings ⊆ (t.insertMeeting row).1.meetings := by
  unfold MeetingTables.insertMeeting
  split_ifs
  · exact List.subset_cons_self _ _
  · exact List.Subset.refl _

/-- A row that is answered is in the table. -/
theorem mem_of_insertMeeting {t : MeetingTables} {row row' : MeetingRow}
    (h : (t.insertMeeting row).2 = .ok (some row')) : row' ∈ (t.insertMeeting row).1.meetings := by
  unfold MeetingTables.insertMeeting at h ⊢
  split_ifs at h ⊢ with hins
  obtain rfl := Option.some.inj (Except.ok.inj h)
  exact List.mem_cons_self

theorem afterError_ne_ok (attempt : ℕ) (m : NewMeeting) (error : String)
    (response : CreateMeetingResponse) :
    CreatePc.afterError attempt m error ≠ .ended (.ok response) := by
  unfold CreatePc.afterError
  split_ifs <;> exact fun h => by cases h

/-- Only a committed row is answered. -/
theorem afterStatement_eq_ok {attempt : ℕ} {m : NewMeeting}
    {result : Except GcError (Option MeetingRow)} {response : CreateMeetingResponse}
    (h : CreatePc.afterStatement attempt m result = .ended (.ok response)) :
    ∃ row, result = .ok (some row) ∧ response = .ofRow row := by
  unfold CreatePc.afterStatement at h
  split at h
  next row =>
    cases h
    exact ⟨row, rfl, rfl⟩
  next => cases h
  next => exact absurd h (afterError_ne_ok _ _ _ _)

/-- What an event does to the system. -/
inductive CreateCase (parseUuid : String → Option String) (s : CreateSystem) :
    CreateEvent → CreateSystem → Prop
  | nothing (e : CreateEvent) (hrow : s.committedRow e = none) : CreateCase parseUuid s e s
  | moved (e : CreateEvent) (hrow : s.committedRow e = none) (call : ℕ) (pc : CreatePc)
      (hpc : ∀ response, pc ≠ .ended (.ok response)) :
      CreateCase parseUuid s e (s.moveTo call pc)
  | inserted (e : CreateEvent) (call : ℕ) (row : MeetingRow) (hrow : s.committedRow e = some row)
      (pc : CreatePc)
      (hpc : ∀ response, pc = .ended (.ok response) →
        ∃ row' ∈ (s.tables.insertMeeting row).1.meetings, response = .ofRow row') :
      CreateCase parseUuid s e { s.moveTo call pc with tables := (s.tables.insertMeeting row).1 }
  | other (t : MeetingTables) : CreateCase parseUuid s (.other t) { s with tables := t }

theorem committedRow_eq_none {call : ℕ}
    (h : ∀ attempt m row, s.calls call ≠ .inserting attempt m row) (committed : Bool)
    (error : String) :
    s.committedRow (.commit call) = none ∧ s.committedRow (.fail call committed error) = none := by
  have hnone : s.committedRow (.commit call) = none := by
    unfold CreateSystem.committedRow
    dsimp only
    split
    next attempt m row hcalls => exact absurd hcalls (h attempt m row)
    next => rfl
  refine ⟨hnone, ?_⟩
  cases committed
  · rfl
  · exact hnone

theorem committedRow_eq_some {call attempt : ℕ} {m : NewMeeting} {row : MeetingRow}
    (h : s.calls call = .inserting attempt m row) (error : String) :
    s.committedRow (.commit call) = some row ∧
      s.committedRow (.fail call true error) = some row := by
  have hsome : s.committedRow (.commit call) = some row := by
    unfold CreateSystem.committedRow
    dsimp only
    rw [h]
  exact ⟨hsome, hsome⟩

theorem create_cases (parseUuid : String → Option String) (s : CreateSystem) (e : CreateEvent) :
    CreateCase parseUuid s e (s.step parseUuid e) := by
  cases e with
  | create call claims body secret =>
    unfold CreateSystem.step
    dsimp only
    split
    · split
      · exact .moved _ rfl call _ fun _ h => by cases h
      · exact .moved _ rfl call _ fun _ h => by cases h
    · exact .nothing _ rfl
  | attempt call bytes now meetingId =>
    unfold CreateSystem.step
    dsimp only
    split
    · split
      · split
        · exact .moved _ rfl call _ fun _ h => by cases h
        · exact .moved _ rfl call _ fun _ h => by cases h
      · exact .moved _ rfl call _ fun _ h => by cases h
    · exact .nothing _ rfl
  | commit call =>
    unfold CreateSystem.step
    dsimp only
    split
    next attempt m row hcalls =>
      refine .inserted _ call row (committedRow_eq_some hcalls "").1 _ fun response h => ?_
      obtain ⟨row', hrow, rfl⟩ := afterStatement_eq_ok h
      exact ⟨row', mem_of_insertMeeting hrow, rfl⟩
    next hcalls => exact .nothing _ (committedRow_eq_none hcalls true "").1
  | fail call committed error =>
    have hpc := fun attempt m => afterError_ne_ok attempt m error
    unfold CreateSystem.step
    dsimp only
    split
    next attempt m hcalls =>
      have hother : ∀ attempt m row, s.calls call ≠ .inserting attempt m row := fun _ _ _ h => by
        rw [hcalls] at h
        cases h
      exact .moved _ (committedRow_eq_none hother committed error).2 call _ (hpc attempt m)
    next attempt m row hcalls =>
      cases committed with
      | false => exact .moved _ rfl call _ (hpc attempt m)
      | true =>
        exact .inserted _ call row (committedRow_eq_some hcalls error).2 _ fun response h =>
          absurd h (hpc attempt m response)
    next hcalls => exact .nothing _ (committedRow_eq_none hcalls committed error).2
  | other t => exact .other t

/-! ## Runs -/

/-- The answered meetings are in the table. -/
def Recorded (s : CreateSystem) : Prop :=
  ∀ call response, s.calls call = .ended (.ok response) →
    ∃ m ∈ s.tables.meetings, m.meetingId = response.meetingId ∧ m.meetingCode = response.meetingCode

theorem Recorded.step (hs : Recorded s) (hallowed : (createMachine parseUuid o).allowed h s e) :
    Recorded (s.step parseUuid e) := by
  have hcase := create_cases parseUuid s e
  generalize s.step parseUuid e = s' at hcase ⊢
  cases hcase with
  | nothing _ _ => exact hs
  | moved _ _ call pc hpc =>
    intro call' response hended
    have hended : Function.update s.calls call pc call' = .ended (.ok response) := hended
    rw [Function.update_apply] at hended
    split_ifs at hended with heq
    · exact absurd hended (hpc response)
    · exact hs call' response hended
  | inserted _ call row _ pc hpc =>
    intro call' response hended
    have hended : Function.update s.calls call pc call' = .ended (.ok response) := hended
    rw [Function.update_apply] at hended
    split_ifs at hended with heq
    · obtain ⟨row', hrow', rfl⟩ := hpc response hended
      exact ⟨row', hrow', rfl, rfl⟩
    · obtain ⟨m', hm', hkey⟩ := hs call' response hended
      exact ⟨m', insertMeeting_subset s.tables row hm', hkey⟩
  | other t =>
    intro call response hended
    obtain ⟨m, hm, hid, hcode⟩ := hs call response hended
    have hperm : (t.meetings.map (·.key)).Perm (s.tables.meetings.map (·.key)) := hallowed
    obtain ⟨m', hm', hkey⟩ := List.mem_map.mp (hperm.mem_iff.mpr (List.mem_map_of_mem hm))
    obtain ⟨hid', _, hcode'⟩ : m'.meetingId = m.meetingId ∧ m'.orgId = m.orgId ∧
        m'.meetingCode = m.meetingCode := by simpa [MeetingRow.key] using hkey
    exact ⟨m', hm', hid'.trans hid, hcode'.trans hcode⟩

theorem run_recorded (hr : (createMachine parseUuid o).Run h s) : Recorded s := by
  refine Machine.Run.invariant (I := fun _ s => Recorded s) ?_ ?_ hr
  · exact fun _ _ hended => by cases hended
  · exact fun h s e _ hallowed hs => hs.step hallowed

/-- With distinct codes the lookup finds the meeting that was answered. -/
theorem Recorded.codesName_iff (hs : Recorded s) :
    CodesName parseUuid s ↔ CodesDistinct s.tables := by
  constructor
  · intro hP
    exact (codesDistinct_iff _).mpr hP.atMostOne
  · intro hcodes
    refine ⟨(codesDistinct_iff _).mp hcodes, fun call response hended rows hrows => ?_⟩
    obtain ⟨m, hm, hid, hcode⟩ := hs call response hended
    have hfind : findMeetingByCode rows response.meetingCode = .ok m := by
      rw [← hcode]
      exact findMeetingByCode_of_nodup ((hrows.map _).nodup_iff.mpr hcodes) (hrows.mem_iff.mpr hm)
    refine ⟨⟨m, hfind, hid⟩, fun claims token hjoin => ?_, fun request guestId token hguest => ?_⟩
    · rw [(joinMeeting_ok hfind hjoin).1, hid]
    · rw [(getGuestToken_ok hfind hguest).1, hid]

theorem not_takesCode (h : s.committedRow e = none) : ¬ TakesCode s e := by
  rintro ⟨row, hrow, _⟩
  rw [h] at hrow
  cases hrow

theorem takesCode_iff {row : MeetingRow} (h : s.committedRow e = some row) :
    TakesCode s e ↔ s.tables.TakesCode row := by
  unfold TakesCode
  rw [h]
  simp

/-- A step keeps the codes distinct iff it takes no code of another organization. -/
theorem codesDistinct_step_iff (hcodes : CodesDistinct s.tables)
    (hallowed : (createMachine parseUuid o).allowed h s e) :
    CodesDistinct (s.step parseUuid e).tables ↔ ¬ TakesCode s e := by
  have hcase := create_cases parseUuid s e
  generalize s.step parseUuid e = s' at hcase ⊢
  cases hcase with
  | nothing _ hrow => exact iff_of_true hcodes (not_takesCode hrow)
  | moved _ hrow => exact iff_of_true hcodes (not_takesCode hrow)
  | inserted _ call row hrow =>
    rw [takesCode_iff hrow]
    exact codesDistinct_insertMeeting_iff hcodes row
  | other t => exact iff_of_true (codesDistinct_of_perm hallowed hcodes) (not_takesCode rfl)

/-- A code names one meeting all along a run iff no row is committed with the code of a
    meeting of another organization. -/
theorem codes_along_iff (parseUuid : String → Option String) (o : Organizations)
    {h : CreateHistory} {s : CreateSystem} (hr : (createMachine parseUuid o).Run h s) :
    (∀ h', h' <:+ h → CodesName parseUuid ((createMachine parseUuid o).stateAfter h')) ↔
      ∀ e a h', (e, a) :: h' <:+ h →
        ¬ TakesCode ((createMachine parseUuid o).stateAfter h') e := by
  refine Machine.Run.always_iff (C := fun s e => ¬ TakesCode s e) ?_ ?_ hr
  · have hnil : Recorded (createMachine parseUuid o).init := fun _ _ hended => by cases hended
    exact hnil.codesName_iff.mpr List.nodup_nil
  · intro h s e hrun hallowed hP
    have hs := run_recorded hrun
    show CodesName parseUuid (s.step parseUuid e) ↔ _
    rw [(hs.step hallowed).codesName_iff]
    exact codesDistinct_step_iff (hs.codesName_iff.mp hP) hallowed

/-! ## Two draws of one code -/

/-- Two organizations. -/
def twoOrganizations : Organizations :=
  ⟨[⟨"org-1", 10, 100, true⟩, ⟨"org-2", 10, 100, true⟩], by decide⟩

/-- A member of an organization, and a request. -/
def memberOf (sub orgId : String) : UserClaims := ⟨sub, orgId, "", ["user"], 0, 0, ""⟩

/-- A request with nothing but a name. -/
def sampleRequest : CreateMeetingRequest := { displayName := "Standup" }

/-- The draw of the number 0. -/
def draw0 : CodeBytes := ⟨[0, 0, 0, 0, 0, 0, 0, 0, 0], rfl⟩

/-- The draw of the number 1. -/
def draw1 : CodeBytes := ⟨[0, 0, 0, 0, 0, 0, 0, 0, 1], rfl⟩

/-- The draw of the number `62 ^ 12`. -/
def drawWrapped : CodeBytes := ⟨[174, 229, 114, 14, 232, 48, 104, 16, 0], rfl⟩

/-- A meeting of each organization; `second` is the draw of the second one. -/
def twoCreates (second : CodeBytes) : List CreateEvent :=
  [.create 1 (memberOf "alice" "org-1") (some sampleRequest) (some [1]),
    .create 2 (memberOf "bob" "org-2") (some sampleRequest) (some [2]),
    .attempt 1 (some draw0) 10 "meeting-1", .attempt 2 (some second) 11 "meeting-2",
    .commit 1, .commit 2]

/-- The calls of users of two organizations. -/
abbrev sampleCreates := createMachine some twoOrganizations

theorem run_twoCreates (second : CodeBytes) :
    sampleCreates.Run (sampleCreates.playAll (twoCreates second)).2
      (sampleCreates.playAll (twoCreates second)).1 :=
  Machine.run_of_admits ⟨trivial, trivial, trivial, trivial, trivial, trivial, trivial⟩

theorem codes_along_twoCreates :
    sampleCreates.Run (sampleCreates.playAll (twoCreates draw1)).2
        (sampleCreates.playAll (twoCreates draw1)).1 ∧
      ∀ h', h' <:+ (sampleCreates.playAll (twoCreates draw1)).2 →
        CodesName some (sampleCreates.stateAfter h') := by
  refine ⟨run_twoCreates draw1,
    (codes_along_iff some twoOrganizations (run_twoCreates draw1)).mpr ?_⟩
  have hsteps : sampleCreates.StepsMeet (fun s e => ¬ TakesCode s e)
      (sampleCreates.playAll (twoCreates draw1)).2 := by decide
  exact hsteps.forall_suffix

/-- Both meetings get the code of twelve zeros, and a server that scans the first one
    first refuses the creator of the second. -/
theorem sharedCode_lost :
    sampleCreates.Run (sampleCreates.playAll (twoCreates drawWrapped)).2
        (sampleCreates.playAll (twoCreates drawWrapped)).1 ∧
      (sampleCreates.playAll (twoCreates drawWrapped)).1.tables.meetings.map (·.key) =
        [("meeting-2", "org-2", "000000000000"), ("meeting-1", "org-1", "000000000000")] ∧
      joinMeeting some (sampleCreates.playAll (twoCreates drawWrapped)).1.tables.meetings.reverse
          (memberOf "bob" "org-2") "000000000000" =
        .error (.forbidden "External participants are not allowed in this meeting") ∧
      ¬ CodesName some (sampleCreates.playAll (twoCreates drawWrapped)).1 := by
  have hkeys : (sampleCreates.playAll (twoCreates drawWrapped)).1.tables.meetings.map (·.key) =
      [("meeting-2", "org-2", "000000000000"), ("meeting-1", "org-1", "000000000000")] := by
    decide
  refine ⟨run_twoCreates drawWrapped, hkeys, by rfl, fun hP => ?_⟩
  have htwo := hP.atMostOne "000000000000"
  revert htwo
  decide

end DarkTower.Gc
