import DarkTower.Lib.Machine
import DarkTower.Mc.MhConnectionRegistry

/-!
# The laws of `MhConnectionRegistry` (`mc-service/src/mh_connection_registry.rs`)

The registry under any sequence of `add_connection`, `remove_connection` and
`remove_meeting`. `contents` is what the nested maps hold, without the order of a
`HashMap`: whether a meeting has an entry, and the entry of each participant.

In a registry without empty entries the lists of `get_connections` determine the contents
(`NoEmpty.contents_eq`), so the laws follow from what an operation does to the lists.

* `registry_laws`: the laws hold in every state of every run. A pair that is present is
  added again without a change; the answer is `true` iff the meeting has room.
* `full_meeting_refuses`: in a full meeting it is `false`.
-/

namespace DarkTower.Mc

open DarkTower.Lib DarkTower.Lib.Multimap

/-- A call of the registry. -/
inductive RegistryEvent
  | addConnection (now : ℕ) (meetingId participantId handlerId : String)
  | removeConnection (meetingId participantId handlerId : String)
  | removeMeeting (meetingId : String)

namespace RegistryEvent

/-- The meeting that an operation is about. -/
def meetingId : RegistryEvent → String
  | addConnection _ m _ _ | removeConnection m _ _ | removeMeeting m => m

/-- The participant that an operation is about. -/
def participantId? : RegistryEvent → Option String
  | addConnection _ _ p _ | removeConnection _ p _ => some p
  | removeMeeting _ => none

end RegistryEvent

namespace MhConnectionRegistry

/-- One operation and what it returns. -/
def step (r : MhConnectionRegistry) : RegistryEvent → MhConnectionRegistry × Option Bool
  | .addConnection now m p h => ((r.addConnection now m p h).1, some (r.addConnection now m p h).2)
  | .removeConnection m p h => ((r.removeConnection m p h).1, some (r.removeConnection m p h).2)
  | .removeMeeting m => (r.removeMeeting m, none)

/-- What the map holds for a meeting: nothing, or the entries of the participants. -/
def contents (r : MhConnectionRegistry) (m : String) :
    Option (String → Option (List MhConnectionInfo)) :=
  (r.connections.lookup m).map fun meeting p => meeting.lookup p

/-- The entry of a participant. -/
def entry (r : MhConnectionRegistry) (m p : String) : Option (List MhConnectionInfo) :=
  (r.contents m).bind fun meeting => meeting p

/-- No entry is empty. -/
structure NoEmpty (r : MhConnectionRegistry) : Prop where
  meeting : ∀ m meeting, r.connections.lookup m = some meeting → ∃ p, p ∈ meeting
  participant : ∀ m meeting p l, r.connections.lookup m = some meeting →
    meeting.lookup p = some l → l ≠ []

/-- The laws in a state. -/
structure Laws (r : MhConnectionRegistry) : Prop where
  bounded : ∀ m, (rowItems r.connections m).length ≤ maxConnectionsPerMeeting
  distinct : ∀ m p, ((r.getConnections m p).map (·.handlerId)).Nodup
  noEmpty : r.NoEmpty
  addRemove : ∀ now m p h, ¬ r.Lists m p h →
    ((r.addConnection now m p h).1.removeConnection m p h).1.contents = r.contents
  otherMeetings : ∀ e m, m ≠ e.meetingId → (r.step e).1.contents m = r.contents m
  otherParticipants : ∀ e p, e.participantId? ≠ none → e.participantId? ≠ some p →
    (r.step e).1.entry e.meetingId p = r.entry e.meetingId p
  addAgain : ∀ now m p h, r.Lists m p h →
    (r.addConnection now m p h).1.contents = r.contents ∧
      ((r.addConnection now m p h).2 = true ↔ r.HasRoom m)

/-! ## The lists determine the contents -/

variable {r r' : MhConnectionRegistry} {m p : String}

theorem entry_eq_lookup : r.entry m p = (row r.connections m).lookup p := by
  unfold entry contents row
  cases r.connections.lookup m with
  | none => rfl
  | some meeting => rfl

theorem getConnections_eq_getD : r.getConnections m p = (r.entry m p).getD [] := by
  rw [entry_eq_lookup]
  rfl

theorem NoEmpty.entry_eq (hr : r.NoEmpty) :
    r.entry m p = if r.getConnections m p = [] then none else some (r.getConnections m p) := by
  rw [getConnections_eq_getD]
  cases hentry : r.entry m p with
  | none => rfl
  | some l =>
    obtain ⟨meeting, hmeeting, hl⟩ := Option.bind_eq_some_iff.mp hentry
    obtain ⟨meeting', hlookup, rfl⟩ := Option.map_eq_some_iff.mp hmeeting
    exact (if_neg (hr.participant m meeting' p l hlookup hl)).symm

theorem NoEmpty.contents_eq_none_iff (hr : r.NoEmpty) :
    r.contents m = none ↔ ∀ p, r.getConnections m p = [] := by
  constructor
  · intro hnone p
    rw [getConnections_eq_getD, entry, hnone]
    rfl
  · intro hempty
    by_contra hsome
    obtain ⟨f, hf⟩ := Option.ne_none_iff_exists'.mp hsome
    obtain ⟨meeting, hmeeting, rfl⟩ := Option.map_eq_some_iff.mp hf
    obtain ⟨p, hp⟩ := hr.meeting m meeting hmeeting
    obtain ⟨l, hl⟩ := Option.isSome_iff_exists.mp (AList.lookup_isSome.mpr hp)
    refine hr.participant m meeting p l hmeeting hl ?_
    have hlist := hempty p
    rw [getConnections_eq_getD, entry, hf] at hlist
    simpa only [Option.bind_some, hl, Option.getD_some] using hlist

theorem contents_eq_some {f : String → Option (List MhConnectionInfo)}
    (h : r.contents m = some f) : f = r.entry m := by
  funext p
  rw [entry, h, Option.bind_some]

/-- Registries without empty entries that list the same for a participant. -/
theorem NoEmpty.entry_congr (hr : r.NoEmpty) (hr' : r'.NoEmpty)
    (h : r.getConnections m p = r'.getConnections m p) : r.entry m p = r'.entry m p := by
  rw [hr.entry_eq, hr'.entry_eq, h]

/-- Registries without empty entries that list the same for a meeting. -/
theorem NoEmpty.contents_congr (hr : r.NoEmpty) (hr' : r'.NoEmpty)
    (h : ∀ p, r.getConnections m p = r'.getConnections m p) : r.contents m = r'.contents m := by
  have hentry : r.entry m = r'.entry m := funext fun p => hr.entry_congr hr' (h p)
  have hnone : r.contents m = none ↔ r'.contents m = none := by
    rw [hr.contents_eq_none_iff, hr'.contents_eq_none_iff]
    exact forall_congr' fun p => by rw [h p]
  cases hc : r.contents m with
  | none => exact (hnone.mp hc).symm
  | some f =>
    obtain ⟨f', hc'⟩ := Option.ne_none_iff_exists'.mp (mt hnone.mpr (by rw [hc]; nofun))
    rw [hc', contents_eq_some hc, contents_eq_some hc', hentry]

/-! ## No operation leaves an empty entry -/

theorem NoEmpty.new : NoEmpty .new :=
  ⟨fun m meeting h => (by cases h), fun m meeting p l h => (by cases h)⟩

/-- A row that is not empty is stored. -/
theorem NoEmpty.insert (hr : r.NoEmpty) (m : String)
    {meeting : AList fun _ : String => List MhConnectionInfo} (hne : ∃ p, p ∈ meeting)
    (hl : ∀ p l, meeting.lookup p = some l → l ≠ []) :
    NoEmpty ⟨r.connections.insert m meeting⟩ := by
  constructor
  · intro m' meeting' h
    rcases lookup_insert_eq_some.mp h with ⟨rfl, rfl⟩ | ⟨_, h⟩
    · exact hne
    · exact hr.meeting m' meeting' h
  · intro m' meeting' p l h
    rcases lookup_insert_eq_some.mp h with ⟨rfl, rfl⟩ | ⟨_, h⟩
    · exact hl p l
    · exact hr.participant m' meeting' p l h

theorem NoEmpty.erase (hr : r.NoEmpty) (m : String) : NoEmpty ⟨r.connections.erase m⟩ := by
  constructor
  · intro m' meeting' h
    exact hr.meeting m' meeting' (lookup_erase_eq_some.mp h).2
  · intro m' meeting' p l h
    exact hr.participant m' meeting' p l (lookup_erase_eq_some.mp h).2

/-- The lists in the row of a meeting. -/
theorem NoEmpty.row (hr : r.NoEmpty) {l : List MhConnectionInfo}
    (h : (row r.connections m).lookup p = some l) : l ≠ [] := by
  unfold Multimap.row at h
  cases hmeeting : r.connections.lookup m with
  | none =>
    rw [hmeeting] at h
    cases h
  | some meeting =>
    rw [hmeeting] at h
    exact hr.participant m meeting p l hmeeting h

theorem NoEmpty.setCell (hr : r.NoEmpty) (m p : String) {l : List MhConnectionInfo}
    (hl : l ≠ []) : NoEmpty ⟨setCell r.connections m p l⟩ := by
  refine hr.insert m ⟨p, (AList.mem_insert _).mpr (.inl rfl)⟩ fun p' l' h => ?_
  rcases lookup_insert_eq_some.mp h with ⟨_, rfl⟩ | ⟨_, h⟩
  · exact hl
  · exact hr.row h

/-- An add is refused, finds the pair, or appends it. -/
inductive AddCase (r : MhConnectionRegistry) (now : ℕ) (m p h : String) :
    MhConnectionRegistry × Bool → Prop
  | refused (hroom : ¬ r.HasRoom m) :
      AddCase r now m p h (⟨r.connections.insert m (Multimap.row r.connections m)⟩, false)
  | again (hroom : r.HasRoom m) (hlists : r.Lists m p h) :
      AddCase r now m p h
        (⟨Multimap.setCell r.connections m p (r.getConnections m p)⟩, true)
  | added (hroom : r.HasRoom m) (hlists : ¬ r.Lists m p h) :
      AddCase r now m p h
        (⟨Multimap.setCell r.connections m p (r.getConnections m p ++ [⟨h, now⟩])⟩, true)

theorem addConnection_cases (r : MhConnectionRegistry) (now : ℕ) (m p h : String) :
    AddCase r now m p h (r.addConnection now m p h) := by
  unfold MhConnectionRegistry.addConnection
  simp only [any_handler_iff]
  split_ifs with hlimit hlists
  · exact .refused (Nat.not_lt.mpr hlimit)
  · exact .again (Nat.not_le.mp hlimit) hlists
  · exact .added (Nat.not_le.mp hlimit) hlists

theorem NoEmpty.addConnection (hr : r.NoEmpty) (now : ℕ) (m p h : String) :
    (r.addConnection now m p h).1.NoEmpty := by
  have hcase := addConnection_cases r now m p h
  generalize r.addConnection now m p h = result at hcase
  cases hcase with
  | refused hroom =>
    -- the entry of a full meeting was not inserted by default
    refine hr.insert m ?_ fun p l h => hr.row h
    have hpos : 0 < (rowItems r.connections m).length :=
      lt_of_lt_of_le (by decide) (Nat.not_lt.mp hroom)
    obtain ⟨c, hc⟩ := List.exists_mem_of_length_pos hpos
    obtain ⟨p, l, hl, _⟩ := mem_flat.mp hc
    exact ⟨p, AList.lookup_isSome.mp (by rw [hl]; rfl)⟩
  | again hroom hlists =>
    obtain ⟨c, hc, _⟩ := hlists
    exact hr.setCell m p (List.ne_nil_of_mem hc)
  | added hroom hlists =>
    exact hr.setCell m p (List.append_ne_nil_of_right_ne_nil _ (List.cons_ne_nil _ _))

theorem NoEmpty.removeConnection (hr : r.NoEmpty) (m p h : String) :
    (r.removeConnection m p h).1.NoEmpty := by
  unfold MhConnectionRegistry.removeConnection
  cases hmeeting : r.connections.lookup m with
  | none => exact hr
  | some meeting =>
    cases hconnections : meeting.lookup p with
    | none => simpa only [hconnections] using hr
    | some participantConnections =>
      simp only [hconnections]
      split_ifs with hretained hempty hempty
      · exact hr.erase m
      · refine hr.insert m (exists_mem_of_entries hempty) fun p' l hl => ?_
        exact hr.participant m meeting p' l hmeeting (lookup_erase_eq_some.mp hl).2
      · exact hr.erase m
      · refine hr.insert m ⟨p, (AList.mem_insert _).mpr (.inl rfl)⟩ fun p' l hl => ?_
        rcases lookup_insert_eq_some.mp hl with ⟨_, rfl⟩ | ⟨_, hl⟩
        · exact fun hnil => hretained (List.isEmpty_iff.mpr hnil)
        · exact hr.participant m meeting p' l hmeeting hl

theorem NoEmpty.step (hr : r.NoEmpty) (e : RegistryEvent) : (r.step e).1.NoEmpty := by
  cases e with
  | addConnection now m p h => exact hr.addConnection now m p h
  | removeConnection m p h => exact hr.removeConnection m p h
  | removeMeeting m => exact hr.erase m

/-! ## How many connections there are -/

theorem length_rowItems_setCell (r : MhConnectionRegistry) (m p : String)
    (l : List MhConnectionInfo) :
    (r.getConnections m p).length + (rowItems (Multimap.setCell r.connections m p l) m).length =
      l.length + (rowItems r.connections m).length := by
  have hlength := (rowItems_setCell r.connections m p l).length_eq
  rwa [List.length_append, List.length_append] at hlength

/-- An add that appends its pair adds one connection to its meeting. -/
theorem length_rowItems_addConnection (r : MhConnectionRegistry) (now : ℕ) (m p h : String) :
    (rowItems (r.addConnection now m p h).1.connections m).length =
      (rowItems r.connections m).length + if r.HasRoom m ∧ ¬ r.Lists m p h then 1 else 0 := by
  have hcase := addConnection_cases r now m p h
  generalize r.addConnection now m p h = result at hcase
  cases hcase with
  | refused hroom =>
    rw [if_neg fun hnew => hroom hnew.1, rowItems, row_insert, if_pos rfl]
    rfl
  | again hroom hlists =>
    have hlength := length_rowItems_setCell r m p (r.getConnections m p)
    rw [if_neg fun hnew => hnew.2 hlists]
    show (rowItems (Multimap.setCell ..) m).length = _
    omega
  | added hroom hlists =>
    have hlength := length_rowItems_setCell r m p (r.getConnections m p ++ [⟨h, now⟩])
    rw [if_pos ⟨hroom, hlists⟩]
    rw [List.length_append, List.length_singleton] at hlength
    show (rowItems (Multimap.setCell ..) m).length = _
    omega

theorem rowItems_addConnection_of_ne (r : MhConnectionRegistry) (now : ℕ) (m p h : String)
    {m' : String} (hm : m' ≠ m) :
    rowItems (r.addConnection now m p h).1.connections m' = rowItems r.connections m' := by
  have hcase := addConnection_cases r now m p h
  generalize r.addConnection now m p h = result at hcase
  cases hcase with
  | refused hroom =>
    rw [rowItems, row_insert, if_neg hm]
    rfl
  | again hroom hlists => exact rowItems_setCell_of_ne _ _ _ _ hm
  | added hroom hlists => exact rowItems_setCell_of_ne _ _ _ _ hm

theorem length_rowItems_removeConnection (r : MhConnectionRegistry) (m p h m' : String) :
    (rowItems (r.removeConnection m p h).1.connections m').length ≤
      (rowItems r.connections m').length := by
  unfold MhConnectionRegistry.removeConnection
  cases hmeeting : r.connections.lookup m with
  | none => exact le_refl _
  | some meeting =>
    cases hconnections : meeting.lookup p with
    | none => simp only [hconnections, le_refl]
    | some participantConnections =>
      have hrow : Multimap.row r.connections m = meeting := by
        rw [Multimap.row, hmeeting, Option.getD_some]
      have hbucket : bucket meeting p = participantConnections := by
        rw [bucket, hconnections, Option.getD_some]
      have herase := (flat_bucket_erase meeting p).length_eq
      have hinsert := (flat_bucket_insert meeting p
        (participantConnections.filter fun c => c.handlerId ≠ h)).length_eq
      have hfilter := List.length_filter_le (fun c => decide (c.handlerId ≠ h))
        participantConnections
      rw [List.length_append] at herase
      rw [hbucket, List.length_append, List.length_append] at hinsert
      simp only [hconnections, rowItems_storeRow]
      split_ifs with hm hempty
      · rw [hm, rowItems, hrow]
        omega
      · rw [hm, rowItems, hrow]
        omega
      · exact le_refl _

/-! ## The invariant and the laws -/

/-- What every operation keeps. -/
structure Bounded (r : MhConnectionRegistry) : Prop where
  bounded : ∀ m, (rowItems r.connections m).length ≤ maxConnectionsPerMeeting
  distinct : ∀ m p, ((r.getConnections m p).map (·.handlerId)).Nodup
  noEmpty : r.NoEmpty

theorem getConnections_removeMeeting (r : MhConnectionRegistry) (m m' p : String) :
    (r.removeMeeting m).getConnections m' p = if m' = m then [] else r.getConnections m' p := by
  simp only [MhConnectionRegistry.removeMeeting, getConnections, cell, row_erase]
  split_ifs <;> rfl

theorem Bounded.new : Bounded .new :=
  ⟨fun _ => Nat.zero_le _, fun _ _ => List.nodup_nil, .new⟩

/-- By cases on the operation: only an add that appends a new pair lists more. -/
theorem Bounded.step (hr : r.Bounded) (e : RegistryEvent) : (r.step e).1.Bounded := by
  refine ⟨fun m' => ?_, fun m' p' => ?_, hr.noEmpty.step e⟩
  · have hold := hr.bounded m'
    cases e with
    | addConnection now m p h =>
      by_cases hm : m' = m
      · rw [hm, MhConnectionRegistry.step, length_rowItems_addConnection]
        split_ifs with hnew
        · exact hnew.1
        · exact hr.bounded m
      · rw [MhConnectionRegistry.step, rowItems_addConnection_of_ne r now m p h hm]
        exact hold
    | removeConnection m p h => exact (length_rowItems_removeConnection r m p h m').trans hold
    | removeMeeting m =>
      simp only [MhConnectionRegistry.step, MhConnectionRegistry.removeMeeting, rowItems, row_erase]
      split_ifs
      · exact Nat.zero_le _
      · exact hold
  · have hold := hr.distinct m' p'
    cases e with
    | addConnection now m p h =>
      rw [MhConnectionRegistry.step, getConnections_addConnection]
      split_ifs with hnew
      · obtain ⟨⟨rfl, rfl⟩, _, hlists⟩ := hnew
        rw [List.map_append, List.nodup_append]
        refine ⟨hold, List.nodup_singleton _, ?_⟩
        rintro _ hmem _ hh rfl
        obtain ⟨c, hc, hid⟩ := List.mem_map.mp hmem
        exact hlists ⟨c, hc, hid.trans (List.mem_singleton.mp hh)⟩
      · exact hold
    | removeConnection m p h =>
      rw [MhConnectionRegistry.step, getConnections_removeConnection]
      split_ifs
      · exact hold.sublist (List.filter_sublist.map _)
      · exact hold
    | removeMeeting m =>
      rw [MhConnectionRegistry.step, getConnections_removeMeeting]
      split_ifs
      · exact List.nodup_nil
      · exact hold

/-- An operation changes the lists of its meeting and participant only. -/
theorem getConnections_step_of_ne (r : MhConnectionRegistry) {e : RegistryEvent} {m p : String}
    (h : m ≠ e.meetingId ∨ e.participantId? ≠ none ∧ e.participantId? ≠ some p) :
    (r.step e).1.getConnections m p = r.getConnections m p := by
  cases e with
  | addConnection now m' p' h' =>
    rw [MhConnectionRegistry.step, getConnections_addConnection, if_neg]
    rintro ⟨⟨rfl, rfl⟩, _⟩
    exact h.elim (fun hm => hm rfl) fun hp => hp.2 rfl
  | removeConnection m' p' h' =>
    rw [MhConnectionRegistry.step, getConnections_removeConnection, if_neg]
    rintro ⟨rfl, rfl⟩
    exact h.elim (fun hm => hm rfl) fun hp => hp.2 rfl
  | removeMeeting m' =>
    rw [MhConnectionRegistry.step, getConnections_removeMeeting, if_neg]
    rintro rfl
    exact h.elim (fun hm => hm rfl) fun hp => hp.1 rfl

/-- What an add appended, the remove takes away. -/
theorem getConnections_add_remove {now : ℕ} {m p h : String} (hnew : ¬ r.Lists m p h)
    (m' p' : String) :
    ((r.addConnection now m p h).1.removeConnection m p h).1.getConnections m' p' =
      r.getConnections m' p' := by
  have hold : ((r.getConnections m p).filter fun c => c.handlerId ≠ h) = r.getConnections m p :=
    List.filter_eq_self.mpr fun c hc => decide_eq_true fun hid => hnew ⟨c, hc, hid⟩
  rw [getConnections_removeConnection, getConnections_addConnection]
  split_ifs with hsame hadded hadded
  · rw [List.filter_append, hsame.1, hsame.2, hold]
    simp
  · rw [hsame.1, hsame.2, hold]
  · exact absurd hadded.1 hsame
  · rfl

theorem getConnections_add_again {now : ℕ} {m p h : String} (hlists : r.Lists m p h)
    (m' p' : String) :
    (r.addConnection now m p h).1.getConnections m' p' = r.getConnections m' p' := by
  rw [getConnections_addConnection, if_neg fun hnew => hnew.2.2 hlists]

/-- A pair that is present is accepted iff its meeting has room. -/
theorem addConnection_answer {m p h : String} (hlists : r.Lists m p h) (now : ℕ) :
    (r.addConnection now m p h).2 = true ↔ r.HasRoom m := by
  have hcase := addConnection_cases r now m p h
  generalize r.addConnection now m p h = result at hcase
  cases hcase with
  | refused hroom => exact iff_of_false Bool.false_ne_true hroom
  | again hroom _ => exact iff_of_true rfl hroom
  | added _ hnot => exact absurd hlists hnot

theorem Bounded.laws (hr : r.Bounded) : r.Laws where
  bounded := hr.bounded
  distinct := hr.distinct
  noEmpty := hr.noEmpty
  addRemove now m p h hnew := funext fun m' =>
    ((hr.noEmpty.addConnection now m p h).removeConnection m p h).contents_congr hr.noEmpty
      fun p' => getConnections_add_remove hnew m' p'
  otherMeetings e _ hm := (hr.noEmpty.step e).contents_congr hr.noEmpty
    fun _ => getConnections_step_of_ne r (.inl hm)
  otherParticipants e _ hsome hne := (hr.noEmpty.step e).entry_congr hr.noEmpty
    (getConnections_step_of_ne r (.inr ⟨hsome, hne⟩))
  addAgain now m p h hlists :=
    ⟨funext fun m' => (hr.noEmpty.addConnection now m p h).contents_congr hr.noEmpty
      fun p' => getConnections_add_again hlists m' p', addConnection_answer hlists now⟩

end MhConnectionRegistry

/-! ## Runs -/

/-- The registry, from the empty one on. -/
def registryMachine : Machine MhConnectionRegistry RegistryEvent (Option Bool) where
  init := .new
  step := MhConnectionRegistry.step
  allowed _ _ _ := True

/-- The laws hold in every state of every run. -/
theorem registry_laws {h : List (RegistryEvent × Option Bool)} {r : MhConnectionRegistry}
    (hr : registryMachine.Run h r) : r.Laws := by
  have hI : r.Bounded := by
    refine Machine.Run.invariant (I := fun _ r => r.Bounded) ?_ (fun _ r e _ _ hI => ?_) hr
    · exact .new
    · exact hI.step e
  exact hI.laws

/-- A connection is added, added again and removed. -/
def addedTwice : List RegistryEvent :=
  [.addConnection 0 "meeting-1" "part-1" "mh-1", .addConnection 1 "meeting-1" "part-1" "mh-1",
    .removeConnection "meeting-1" "part-1" "mh-1"]

theorem registry_laws_addedTwice :
    ((registryMachine.playAll addedTwice).2.map fun x => x.2) =
        [some true, some true, some true] ∧
      (registryMachine.playAll addedTwice).1.Laws :=
  ⟨by decide, registry_laws (Machine.run_of_admits ⟨trivial, trivial, trivial, trivial⟩)⟩

/-! ## A full meeting -/

/-- Handler ids of different lengths. -/
def handlerName (n : ℕ) : String := String.ofList (List.replicate n 'h')

theorem handlerName_injective : Function.Injective handlerName := by
  intro n n' h
  have hlist := congrArg (fun s => s.toList.length) h
  simpa [handlerName] using hlist

/-- A registry in which one participant has been connected to so many handlers. -/
def filled : ℕ → MhConnectionRegistry
  | 0 => .new
  | n + 1 => ((filled n).addConnection 0 "meeting-1" "part-1" (handlerName n)).1

theorem filled_run (n : ℕ) : ∃ h, registryMachine.Run h (filled n) := by
  induction n with
  | zero => exact ⟨[], .nil⟩
  | succ n ih =>
    obtain ⟨h, hr⟩ := ih
    exact ⟨_, hr.cons (.addConnection 0 "meeting-1" "part-1" (handlerName n)) trivial⟩

/-- Up to the limit, every one of them is added. -/
theorem filled_spec {n : ℕ} (hn : n ≤ maxConnectionsPerMeeting) :
    (rowItems (filled n).connections "meeting-1").length = n ∧
      ∀ h, (filled n).Lists "meeting-1" "part-1" h ↔ ∃ i < n, h = handlerName i := by
  induction n with
  | zero =>
    refine ⟨rfl, fun h => ⟨fun hlists => ?_, fun ⟨i, hi, _⟩ => absurd hi (Nat.not_lt_zero i)⟩⟩
    exact absurd hlists (MhConnectionRegistry.not_lists_new _ _ _)
  | succ n ih =>
    obtain ⟨hlength, hlists⟩ := ih (Nat.le_of_succ_le hn)
    have hroom : (filled n).HasRoom "meeting-1" := by
      rw [MhConnectionRegistry.HasRoom, hlength]
      exact hn
    have hnew : ¬ (filled n).Lists "meeting-1" "part-1" (handlerName n) := by
      rw [hlists]
      rintro ⟨i, hi, heq⟩
      exact absurd (handlerName_injective heq) (Nat.ne_of_gt hi)
    constructor
    · rw [filled, MhConnectionRegistry.length_rowItems_addConnection, if_pos ⟨hroom, hnew⟩,
        hlength]
    · intro h
      rw [filled, MhConnectionRegistry.lists_addConnection, hlists]
      simp only [hroom, and_true, true_and]
      constructor
      · rintro (⟨i, hi, rfl⟩ | rfl)
        · exact ⟨i, Nat.lt_succ_of_lt hi, rfl⟩
        · exact ⟨n, Nat.lt_succ_self n, rfl⟩
      · rintro ⟨i, hi, rfl⟩
        rcases Nat.lt_succ_iff_lt_or_eq.mp hi with hi | rfl
        · exact .inl ⟨i, hi, rfl⟩
        · exact .inr rfl

/-- With 1000 connections, a pair that is present is refused. -/
theorem full_meeting_refuses :
    (∃ h, registryMachine.Run h (filled maxConnectionsPerMeeting)) ∧
      (filled maxConnectionsPerMeeting).Lists "meeting-1" "part-1" (handlerName 0) ∧
      ((filled maxConnectionsPerMeeting).addConnection 0 "meeting-1" "part-1"
        (handlerName 0)).2 = false := by
  obtain ⟨hlength, hlists⟩ := filled_spec (le_refl maxConnectionsPerMeeting)
  have hpresent := (hlists (handlerName 0)).mpr ⟨0, by decide, rfl⟩
  refine ⟨filled_run _, hpresent, Bool.eq_false_iff.mpr fun htrue => ?_⟩
  have hroom := (MhConnectionRegistry.addConnection_answer hpresent 0).mp htrue
  rw [MhConnectionRegistry.HasRoom, hlength] at hroom
  exact lt_irrefl _ hroom

end DarkTower.Mc
