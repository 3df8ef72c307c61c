import Unitae.Publishers.BackfilledStints
import Unitae.Settings.ImportedIdentities

/-!
# Unitae — when an import keeps the mirror

The reports and the stints of an archive are written when the members have been synced, and the backfill comes last.
An import therefore keeps the mirror when neither makes a standing pioneer of one whose flags allow it, and no
archived seat is in an identity role (`PeopleArchive.KeepsMirror`).
-/

namespace Unitae.Settings

open Publishers

/-! ## Reports -/

def PublisherActivityRecord.absMonth (line : PublisherActivityRecord) : Int :=
  Publishers.absMonth line.month line.year

/-- The last line for the last month is a yearly pioneer's. -/
def LinesEndAsPioneer (lines : List PublisherActivityRecord) : Prop :=
  ∃ before line after, lines = before ++ line :: after ∧ isYearlyType line.type = true ∧
    (∀ x ∈ before, x.absMonth ≤ line.absMonth) ∧ ∀ x ∈ after, x.absMonth < line.absMonth

/-- The rows of a member are those of the lines, under ids that go up to the next one. -/
def RowsOf (p next : Nat) (lines : List PublisherActivityRecord) (rows : List PublisherActivity) : Prop :=
  ∃ numbered : List (PublisherActivityRecord × Nat), numbered.map (·.1) = lines ∧
    rows = numbered.map (fun n => n.1.row p n.2) ∧ numbered.Pairwise (fun a b => a.2 < b.2) ∧
      ∀ n ∈ numbered, n.2 < next

section Reports

variable {idMap : EntityIdMap} {lines : List PublisherActivityRecord} {line : PublisherActivityRecord}
  {rows : List PublisherActivity} {p next : Nat} {db db' : CongregationDb}

theorem RowsOf.nil : RowsOf p next [] [] := ⟨[], rfl, rfl, .nil, fun _ h => absurd h List.not_mem_nil⟩

theorem RowsOf.add (h : RowsOf p next lines rows) :
    RowsOf p (next + 1) (lines ++ [line]) (rows ++ [line.row p next]) := by
  obtain ⟨numbered, rfl, rfl, hids, hlt⟩ := h
  refine ⟨numbered ++ [(line, next)], by simp, by simp, ?_, lt_append_next hlt rfl⟩
  refine List.pairwise_append.mpr ⟨hids, List.pairwise_singleton _ _, fun a ha b hb => ?_⟩
  rw [List.mem_singleton.mp hb]
  exact hlt a ha

theorem RowsOf.later (h : RowsOf p next lines rows) : RowsOf p (next + 1) lines rows := by
  obtain ⟨numbered, hlines, hrows, hids, hlt⟩ := h
  exact ⟨numbered, hlines, hrows, hids, fun n hn => Nat.lt_succ_of_lt (hlt n hn)⟩

theorem RowsOf.eq_nil (h : RowsOf p next [] rows) : rows = [] := by
  obtain ⟨numbered, hlines, rfl, -⟩ := h
  rw [List.map_eq_nil_iff.mp hlines, List.map_nil]

/-- Rows whose ids go up end as their lines do. -/
theorem RowsOf.ends (h : RowsOf p next lines rows) (hends : EndsAsPioneer rows) : LinesEndAsPioneer lines := by
  obtain ⟨numbered, rfl, rfl, hids, -⟩ := h
  obtain ⟨r, hr, hyearly, hlast⟩ := hends
  obtain ⟨n, hn, rfl⟩ := List.mem_map.mp hr
  obtain ⟨before, after, rfl⟩ := List.append_of_mem hn
  refine ⟨before.map (·.1), n.1, after.map (·.1), by simp, hyearly, fun x hx => ?_, fun x hx => ?_⟩
  · obtain ⟨b, hb, rfl⟩ := List.mem_map.mp hx
    rcases hlast (b.1.row p b.2) (List.mem_map_of_mem (List.mem_append_left _ hb)) with hlt | ⟨heq, -⟩
    · exact Int.le_of_lt hlt
    · exact Int.le_of_eq heq
  · obtain ⟨a, ha, rfl⟩ := List.mem_map.mp hx
    have hlater : n.2 < a.2 := (List.pairwise_cons.mp (List.pairwise_append.mp hids).2.1).1 a ha
    have hmem : a ∈ before ++ n :: after := List.mem_append_right _ (List.mem_cons_of_mem _ ha)
    rcases hlast (a.1.row p a.2) (List.mem_map_of_mem hmem) with hlt | ⟨-, hle⟩
    · exact hlt
    · -- a later line of the same month would have the later id
      exact absurd hle (Nat.not_le.mpr hlater)

/-- What the importer of reports leaves. -/
structure ReportsImported (lines : List PublisherActivityRecord) (idMap : EntityIdMap) (db₀ db : CongregationDb) :
    Prop where
  written : ∃ activity next, db =
    { db₀.withDirectory { db₀.directory with activity := activity } with nextActivityId := next }
  known : ∀ r ∈ db.directory.activity, r.publisherId ∈ db₀.directory.members.map (·.id)
  rows : ∀ p, ∃ rows, db.directory.activity.filter (·.publisherId == p) =
      db₀.directory.activity.filter (·.publisherId == p) ++ rows ∧
    RowsOf p db.nextActivityId (lines.filter fun line => idMap.find .members line.publisherId == some p) rows

theorem importPublisherActivities_imported
    (hknown : ∀ r ∈ db.directory.activity, r.publisherId ∈ db.directory.members.map (·.id))
    (hmapped : ∀ oldId p, idMap.find .members oldId = some p → p ∈ db.directory.members.map (·.id))
    (hexec : (importPublisherActivities lines idMap).exec db = (.ok (), db')) :
    ReportsImported lines idMap db db' := by
  refine Tx.forM_invariant (I := fun done s => ReportsImported done idMap db s) hexec
    ⟨⟨_, _, rfl⟩, hknown, fun p => ⟨[], by simp, RowsOf.nil⟩⟩ ?_
  intro done line _ _ s s' h hturn
  unfold importPublisherActivity at hturn
  have hfilter : ∀ p, (done ++ [line]).filter (fun line => idMap.find .members line.publisherId == some p) =
      done.filter (fun line => idMap.find .members line.publisherId == some p) ++
        if idMap.find .members line.publisherId = some p then [line] else [] := by
    intro p
    rw [List.filter_append]
    by_cases hp : idMap.find .members line.publisherId = some p <;> simp [hp]
  cases hfind : idMap.getOptional .members (some line.publisherId) with
  | none =>
    rw [hfind] at hturn
    obtain ⟨-, rfl⟩ := Tx.exec_pure_ok.mp hturn
    have hnone : idMap.find .members line.publisherId = none := hfind
    refine ⟨h.written, h.known, fun p => ?_⟩
    rw [hfilter, hnone, if_neg (by simp), List.append_nil]
    exact h.rows p
  | some publisherId =>
    rw [hfind] at hturn
    rw [Tx.exec_modify, Prod.mk.injEq] at hturn
    have hsome : idMap.find .members line.publisherId = some publisherId := hfind
    have hactivity : s'.directory.activity = s.directory.activity ++ [line.row publisherId s.nextActivityId] := by
      rw [← hturn.2]
      rfl
    have hnext : s'.nextActivityId = s.nextActivityId + 1 := by rw [← hturn.2]
    refine ⟨?_, fun r hr => ?_, fun p => ?_⟩
    · obtain ⟨activity, next, rfl⟩ := h.written
      exact ⟨_, _, hturn.2.symm⟩
    · rw [hactivity] at hr
      rcases List.mem_append.mp hr with hold | hnew
      · exact h.known r hold
      · rw [List.mem_singleton.mp hnew]
        exact hmapped _ _ hsome
    · obtain ⟨rows, hrows, hof⟩ := h.rows p
      rw [hfilter, hsome, hactivity, List.filter_append, hrows, hnext]
      by_cases hp : publisherId = p
      · subst hp
        refine ⟨rows ++ [line.row publisherId s.nextActivityId], ?_, ?_⟩
        · rw [List.append_assoc, List.filter_cons_of_pos (by simp [PublisherActivityRecord.row]), List.filter_nil]
        · rw [if_pos rfl]
          exact hof.add
      · refine ⟨rows, ?_, ?_⟩
        · rw [List.filter_cons_of_neg (by simpa [PublisherActivityRecord.row] using hp), List.filter_nil,
            List.append_nil]
        · rw [if_neg fun hsame => hp (Option.some.inj hsame), List.append_nil]
          exact hof.later

end Reports

/-! ## Stints -/

section Stints

variable {idMap : EntityIdMap} {lines : List PioneerEnrolmentRecord} {db db' : PublisherDb}

theorem importPioneerEnrolments_periods (h : StintsKeyed db)
    (hmapped : ∀ oldId p, idMap.find .members oldId = some p → p ∈ db.members)
    (hexec : (importPioneerEnrolments lines idMap).exec db = (.ok (), db')) :
    StintsKeyed db' ∧ db'.members = db.members ∧ db'.activity = db.activity ∧
      ∀ p, db'.periodsOf p = db.periodsOf p ++
        (lines.filter fun line => idMap.find .members line.memberId == some p).map (·.params.period) := by
  refine Tx.forM_invariant (I := fun done s => StintsKeyed s ∧ s.members = db.members ∧ s.activity = db.activity ∧
    ∀ p, s.periodsOf p = db.periodsOf p ++
      (done.filter fun line => idMap.find .members line.memberId == some p).map (·.params.period)) hexec
    ⟨h, rfl, rfl, by simp⟩ ?_
  intro done line _ _ s s' ⟨hkeyed, hmembers, hactivity, hperiods⟩ hturn
  unfold importPioneerEnrolment at hturn
  cases hfind : idMap.getOptional .members (some line.memberId) with
  | none =>
    rw [hfind] at hturn
    obtain ⟨-, rfl⟩ := Tx.exec_pure_ok.mp hturn
    have hnone : idMap.find .members line.memberId = none := hfind
    refine ⟨hkeyed, hmembers, hactivity, fun p => ?_⟩
    rw [hperiods, List.filter_append, List.filter_cons_of_neg (by simp [hnone]), List.filter_nil, List.append_nil]
  | some memberId =>
    rw [hfind] at hturn
    rw [Tx.exec_modify, Prod.mk.injEq] at hturn
    have hsome : idMap.find .members line.memberId = some memberId := hfind
    rw [← hturn.2]
    have hmember : memberId ∈ s.members := by
      rw [hmembers]
      exact hmapped _ _ hsome
    have hwrites := @StintsKeyed.open _ _ hkeyed line.params hmember
    refine ⟨hwrites.keyed, hwrites.members.trans hmembers, hwrites.activity.trans hactivity, fun p => ?_⟩
    rw [periodsOf_create, hperiods, List.filter_append, List.map_append]
    split
    · next hp =>
      rw [List.append_assoc, List.filter_cons_of_pos (by simp [hsome, hp]), List.filter_nil]
      rfl
    · next hp =>
      have hother : ¬memberId = p := fun hsame => hp hsame.symm
      rw [List.filter_cons_of_neg (by simpa [hsome] using hother), List.filter_nil, List.map_nil, List.append_nil]

end Stints

/-! ## The import -/

/-- The periods of a member's archived stints. -/
def PeopleArchive.periodsOf (archive : PeopleArchive) (oldId : Int) : List Roles.EnrolmentPeriod :=
  (archive.enrolments.filter fun line => line.memberId == oldId).map (·.params.period)

/-- A member's archived reports. -/
def PeopleArchive.reportsOf (archive : PeopleArchive) (oldId : Int) : List PublisherActivityRecord :=
  archive.activities.filter fun line => line.publisherId == oldId

/-- Of the members who may be pioneers, archived or there, none is made a standing pioneer, by archived stints or by
the backfill; and no archived seat of an account that is imported is in an identity role. -/
structure PeopleArchive.KeepsMirror (archive : PeopleArchive) (db : CongregationDb) : Prop where
  stints : ∀ oldId, ∀ line ∈ lineOf MemberRecord.id archive.members oldId, line.mayPioneer = true →
    Roles.standingTypeFromEnrolments (archive.periodsOf oldId) = .normal
  reports : ∀ oldId, ∀ line ∈ lineOf MemberRecord.id archive.members oldId, line.mayPioneer = true →
    archive.periodsOf oldId = [] → ¬LinesEndAsPioneer (archive.reportsOf oldId)
  backfilled : ∀ m ∈ db.directory.members, m.mayPioneer = true → db.directory.publisherDb.periodsOf m.id = [] →
    ¬EndsAsPioneer (db.directory.publisherDb.reportsOf m.id)
  seats : ∀ seat ∈ archive.seats,
    (∃ account ∈ archive.accounts, account.id = seat.userId ∧ account.email ∉ db.people.otherEmails) →
      ∀ line ∈ lineOf RoleRecord.id archive.roles seat.roleId, Roles.isIdentityRoleKey line.key = false

section Import

variable {rt : DateText} {seesAll : Bool} {archive : PeopleArchive} {db db' : CongregationDb} {idMap : EntityIdMap}

/-- The importer of roles, on a congregation. -/
theorem importRoles_sound (h : db.Sound)
    (hexec : (onRoles (importRoles archive.roles .empty)).exec db = (.ok idMap, db')) :
    db'.Sound ∧ RolesImported archive.roles db.roleDb idMap db'.roleDb ∧
      db' = db.withRoles db'.roleDb := by
  obtain ⟨roles, himport, rfl⟩ := Tx.exec_on_ok.mp hexec
  have himported := importRoles_imported h.unwritten.seeded h.roles h.unwritten.id_lt himport
  have hfounded : Founded roles.nextRoleId db.people.otherEmails roles.roles db.directory.accounts := by
    refine ⟨himported.id_lt, fun key hidentity => ?_, h.unwritten.own⟩
    obtain ⟨role₀, hrole₀, hkey₀⟩ := h.unwritten.seeded key hidentity
    obtain ⟨role, hrole, -, hkey⟩ := himported.kept role₀ hrole₀
    exact ⟨role, hrole, hkey.trans hkey₀⟩
  refine ⟨?_, ?_, rfl⟩
  · exact IdentitySound.withRoles h himported.keyed himported.identity hfounded
  · exact ⟨himported.keyed, himported.id_lt, himported.kept, himported.identity, himported.mapped,
      himported.others⟩

/-- What an import has done when it comes to the reports. -/
structure PeopleImported (archive : PeopleArchive) (db₀ : CongregationDb) (idMap : EntityIdMap)
    (db : CongregationDb) : Prop where
  sound : db.Sound
  stints : db.directory.enrolments = db₀.directory.enrolments
  reports : db.directory.activity = db₀.directory.activity
  mapped : ∀ oldId p, idMap.find .members oldId = some p → db₀.directory.nextMemberId ≤ p ∧
    ∃ line ∈ lineOf MemberRecord.id archive.members oldId,
      ∃ m ∈ db.directory.members, m.id = p ∧ m.mayPioneer = line.mayPioneer
  injective : ∀ a b p, idMap.find .members a = some p → idMap.find .members b = some p → a = b
  old : ∀ m ∈ db.directory.members, m.id < db₀.directory.nextMemberId →
    ∃ m₀ ∈ db₀.directory.members, m₀.id = m.id ∧ m₀.mayPioneer = m.mayPioneer

/-- The role of a seat's row is that of a role line, and its account that of an account line. -/
theorem seat_noIdentity {roles : Roles.RoleDb} {directory : MemberDb} {people₀ people : PeopleDb}
    {idMap₀ idMap₁ idMap₂ : EntityIdMap} {roles₀ : Roles.RoleDb} {row : Roles.UserRoleAssignment}
    (himported : RolesImported archive.roles roles₀ idMap₀ roles) (hdirectory : directory.roles = roles.roles)
    (haccounts : AccountsImported archive.accounts idMap₁ people₀ idMap₂ people)
    (hroleIds : ∀ oldId, idMap₂.find .roles oldId = idMap₀.find .roles oldId)
    (hseats : ∀ seat ∈ archive.seats,
      (∃ account ∈ archive.accounts, account.id = seat.userId ∧ account.email ∉ people₀.otherEmails) →
        ∀ line ∈ lineOf RoleRecord.id archive.roles seat.roleId, Roles.isIdentityRoleKey line.key = false)
    (hrow : row ∈ archive.seats.filterMap (SeatRecord.row idMap₂)) : directory.NoIdentityRole row.roleId := by
  obtain ⟨seat, hseat, hmade⟩ := List.mem_filterMap.mp hrow
  unfold SeatRecord.row at hmade
  split at hmade
  · next userId roleId huser hrole =>
    obtain rfl := Option.some.inj hmade
    obtain ⟨account, haccount, hid, hfree⟩ := haccounts.mapped _ _ huser
    obtain ⟨line, hline, role', hrole', hid', hkey'⟩ := himported.mapped _ _ ((hroleIds _).symm.trans hrole)
    intro role hmem hsame
    rw [hdirectory] at hmem
    obtain rfl := himported.keyed.eq_of_key hmem hrole' (hsame.trans hid'.symm)
    rw [hkey']
    exact hseats seat hseat ⟨account, haccount, hid, hfree⟩ line hline
  · cases hmade

/-- Roles, members and accounts, whose seats may then be written. -/
theorem importAccounts_imported {idMap₁ idMap₂ idMap₃ : EntityIdMap} {db₁ db₂ db₃ : CongregationDb}
    (h : db.Sound) (hkeeps : archive.KeepsMirror db)
    (hroles : (onRoles (importRoles archive.roles .empty)).exec db = (.ok idMap₁, db₁))
    (hmembers : (onDirectory (importMembers rt archive.members idMap₁)).exec db₁ = (.ok idMap₂, db₂))
    (haccounts :
      (onAccounts (importUserAccounts rt seesAll archive.accounts idMap₂)).exec db₂ = (.ok idMap₃, db₃)) :
    PeopleImported archive db idMap₃ db₃ ∧
      ∀ row ∈ archive.seats.filterMap (SeatRecord.row idMap₃), db₃.directory.NoIdentityRole row.roleId := by
  obtain ⟨hsound₁, himported₁, hdb₁⟩ := importRoles_sound h hroles
  have hemails : db₁.people.otherEmails = db.people.otherEmails := by
    rw [hdb₁]
    rfl
  have hbefore : db₁.directory.members = db.directory.members ∧
      db₁.directory.nextMemberId = db.directory.nextMemberId ∧
      db₁.directory.enrolments = db.directory.enrolments ∧ db₁.directory.activity = db.directory.activity := by
    rw [hdb₁]
    exact ⟨rfl, rfl, rfl, rfl⟩
  -- the members, whom a sync makes fresh as they are created
  obtain ⟨directory₂, hexec₂, rfl⟩ := Tx.exec_on_ok.mp hmembers
  obtain ⟨hsound₂, himported₂⟩ := importMembers_imported hsound₁
    (fun oldId => himported₁.others .members (by decide) oldId) hexec₂
  obtain ⟨people₃, hexec₃, rfl⟩ := Tx.exec_on_ok.mp haccounts
  have hown₂ : (db₁.withDirectory directory₂).people.EmailsOwn := hsound₂.unwritten.own
  have himported₃ := importUserAccounts_imported hown₂
    (fun oldId => (himported₂.others .userAccounts (by decide) oldId).trans
      (himported₁.others .userAccounts (by decide) oldId)) hexec₃
  have hfind : ∀ oldId, idMap₃.find .members oldId = idMap₂.find .members oldId :=
    himported₃.others .members (by decide)
  have hown₃ := himported₃.own
  unfold PeopleDb.EmailsOwn at hown₃
  obtain ⟨accounts, hdirectory⟩ := himported₃.directory
  have hdirectory₃ : people₃.directory = { directory₂ with accounts := accounts } := hdirectory
  rw [hdirectory₃] at hown₃
  have hseats := hkeeps.seats
  rw [← hemails] at hseats
  constructor
  · refine ⟨?_, ?_, ?_, fun oldId p hmap => ?_, fun a b p ha hb => ?_, fun m hm hlt => ?_⟩
    · show IdentitySound (Founded db₁.nextRoleId people₃.otherEmails) nobody people₃.directory
      rw [hdirectory₃]
      exact hsound₂.withAccounts ⟨hsound₂.unwritten.id_lt, hsound₂.unwritten.seeded, hown₃⟩
    · show people₃.directory.enrolments = db.directory.enrolments
      rw [hdirectory₃]
      exact himported₂.stints.trans hbefore.2.2.1
    · show people₃.directory.activity = db.directory.activity
      rw [hdirectory₃]
      exact himported₂.reports.trans hbefore.2.2.2
    · rw [hfind] at hmap
      obtain ⟨hle, line, hline, hmember⟩ := himported₂.mapped oldId p hmap
      rw [hbefore.2.1] at hle
      refine ⟨hle, line, hline, ?_⟩
      show ∃ m ∈ people₃.directory.members, m.id = p ∧ m.mayPioneer = line.mayPioneer
      rw [hdirectory₃]
      exact hmember
    · rw [hfind] at ha hb
      exact himported₂.injective a b p ha hb
    · have hm₂ : m ∈ people₃.directory.members := hm
      rw [hdirectory₃] at hm₂
      rw [← hbefore.2.1] at hlt
      have hold := himported₂.old m hm₂ hlt
      rw [hbefore.1] at hold
      exact ⟨m, hold, rfl, rfl⟩
  · intro row hrow
    refine seat_noIdentity himported₁ ?_ himported₃ (fun oldId => ?_) hseats hrow
    · show people₃.directory.roles = db₁.directory.roles
      rw [hdirectory₃]
      exact himported₂.roles
    · exact (himported₃.others .roles (by decide) oldId).trans (himported₂.others .roles (by decide) oldId)

/-- What is carried on is still imported. -/
theorem PeopleImported.carried {idMap' : EntityIdMap} (h : PeopleImported archive db idMap db')
    {db'' : CongregationDb} (hcarried : db''.Carries db'.directory)
    (hfind : ∀ oldId, idMap'.find .members oldId = idMap.find .members oldId) :
    PeopleImported archive db idMap' db'' := by
  have hflags : ∀ m ∈ db''.directory.members, ∃ m₁ ∈ db'.directory.members, m₁.id = m.id ∧
      m₁.mayPioneer = m.mayPioneer := by
    intro m hm
    obtain ⟨m₁, hm₁, hid, hflags⟩ := hcarried.flags m hm
    exact ⟨m₁, hm₁, hid, hflags.mayPioneer.symm⟩
  refine ⟨hcarried.sound, hcarried.stints.trans h.stints, hcarried.reports.trans h.reports, fun oldId p hmap => ?_,
    fun a b p ha hb => ?_, fun m hm hlt => ?_⟩
  · rw [hfind] at hmap
    obtain ⟨hle, line, hline, m₁, hm₁, rfl, hmay⟩ := h.mapped oldId p hmap
    refine ⟨hle, line, hline, ?_⟩
    have hthere : m₁.id ∈ db''.directory.members.map (·.id) := by
      rw [hcarried.ids]
      exact List.mem_map_of_mem hm₁
    obtain ⟨m, hm, hid⟩ := List.mem_map.mp hthere
    obtain ⟨m', hm', hid', hmay'⟩ := hflags m hm
    obtain rfl := h.sound.members.keyed.eq_of_key hm' hm₁ (hid'.trans hid)
    exact ⟨m, hm, hid, hmay'.symm.trans hmay⟩
  · rw [hfind] at ha hb
    exact h.injective a b p ha hb
  · obtain ⟨m₁, hm₁, hid, hmay⟩ := hflags m hm
    rw [← hid] at hlt
    obtain ⟨m₀, hm₀, hid₀, hmay₀⟩ := h.old m₁ hm₁ hlt
    exact ⟨m₀, hm₀, hid₀.trans hid, hmay₀.trans hmay⟩

theorem importPeople_imported (h : db.Sound) (hkeeps : archive.KeepsMirror db)
    (hexec : (importPeople rt seesAll archive).exec db = (.ok idMap, db')) : PeopleImported archive db idMap db' := by
  unfold importPeople at hexec
  obtain ⟨idMap₁, db₁, hroles, hexec⟩ := Tx.exec_bind_ok.mp hexec
  obtain ⟨idMap₂, db₂, hmembers, hexec⟩ := Tx.exec_bind_ok.mp hexec
  obtain ⟨idMap₃, db₃, haccounts, hexec⟩ := Tx.exec_bind_ok.mp hexec
  obtain ⟨db₄, hseats, hexec⟩ := Tx.exec_seq_ok.mp hexec
  obtain ⟨db₅, hgrants, hexec⟩ := Tx.exec_seq_ok.mp hexec
  obtain ⟨idMap₆, db₆, hgroups, hexec⟩ := Tx.exec_bind_ok.mp hexec
  obtain ⟨db₇, hplaces, hexec⟩ := Tx.exec_seq_ok.mp hexec
  obtain ⟨rfl, rfl⟩ := Tx.exec_pure_ok.mp hexec
  obtain ⟨himported, hrows⟩ := importAccounts_imported h hkeeps hroles hmembers haccounts
  obtain ⟨directory₄, hexec₄, rfl⟩ := Tx.exec_on_ok.mp hseats
  have hcarried₄ := importUserRoleAssignments_carries hrows (Carried.refl himported.sound) hexec₄
  have hcarried₅ : db₅.Carries db₃.directory := by
    refine importCongregationUserPermissions_carries ?_ hgrants
    exact hcarried₄
  obtain ⟨directory₆, hexec₆, rfl⟩ := Tx.exec_on_ok.mp hgroups
  obtain ⟨hcarried₆, hmapped₆⟩ := importPublisherGroups_carries hcarried₅ hexec₆
  obtain ⟨directory₇, hexec₇, rfl⟩ := Tx.exec_on_ok.mp hplaces
  have hcarried₇ := updateMemberPublisherGroups_carries.of_ok hexec₇ hcarried₆
  exact himported.carried hcarried₇ hmapped₆

/-! ### What the reports and the stints change -/

/-- The lines of the archived member that stands for `p`. -/
theorem filter_mapped {α : Type} {key : α → Int} {lines : List α} {oldId : Int} {p : Nat}
    (hinjective : ∀ a b p, idMap.find .members a = some p → idMap.find .members b = some p → a = b)
    (hfind : idMap.find .members oldId = some p) :
    (lines.filter fun line => idMap.find .members (key line) == some p) =
      lines.filter fun line => key line == oldId := by
  refine List.filter_congr fun line _ => ?_
  rw [Bool.eq_iff_iff, beq_iff_eq, beq_iff_eq]
  constructor
  · exact fun hline => hinjective _ _ p hline hfind
  · intro hline
    rw [hline]
    exact hfind

theorem filter_unmapped {α : Type} {key : α → Int} {lines : List α} {p : Nat}
    (hnone : ∀ oldId, idMap.find .members oldId ≠ some p) :
    (lines.filter fun line => idMap.find .members (key line) == some p) = [] := by
  refine List.filter_eq_nil_iff.mpr fun line _ => ?_
  rw [beq_iff_eq]
  exact hnone _

/-- The stints and the reports of a member whose id is new are none yet. -/
theorem none_of_new (h : db.Sound) {p : Nat} (hnew : db.directory.nextMemberId ≤ p) :
    db.directory.enrolments.filter (·.memberId == p) = [] ∧
      db.directory.activity.filter (·.publisherId == p) = [] := by
  have hmember : p ∉ db.directory.members.map (·.id) := by
    intro hmem
    obtain ⟨m, hm, rfl⟩ := List.mem_map.mp hmem
    exact Nat.not_lt.mpr hnew (h.members.id_lt m hm)
  constructor
  · refine List.filter_eq_nil_iff.mpr fun e he hp => hmember ?_
    rw [← beq_iff_eq.mp hp]
    exact h.stints.known e he
  · refine List.filter_eq_nil_iff.mpr fun r hr hp => hmember ?_
    rw [← beq_iff_eq.mp hp]
    exact h.reports r hr

/-- The stints of the archive and the backfill make no other standing pioneers than there were. -/
theorem standing_kept {db₇ db₈ : CongregationDb} {stints : PublisherDb} {m : Member} (h : db.Sound)
    (hkeeps : archive.KeepsMirror db) (himported : PeopleImported archive db idMap db₇)
    (hreports : ReportsImported archive.activities idMap db₇ db₈) (hm : m ∈ db₇.directory.members)
    (hmay : m.mayPioneer = true) (hactivity : stints.activity = db₈.directory.activity)
    (hperiods : stints.periodsOf m.id = db₇.directory.publisherDb.periodsOf m.id ++
      (archive.enrolments.filter fun line => idMap.find .members line.memberId == some m.id).map
        (·.params.period)) :
    (Roles.standingTypeFromEnrolments (stints.backfilled m.id) != .normal) =
      (db₇.directory.standingType m.id != .normal) := by
  have hbefore : db₇.directory.publisherDb.periodsOf m.id = db.directory.publisherDb.periodsOf m.id := by
    unfold PublisherDb.periodsOf PublisherDb.stintsOf MemberDb.publisherDb
    rw [himported.stints]
  obtain ⟨rows, hrows, hof⟩ := hreports.rows m.id
  rw [himported.reports] at hrows
  have hreported : stints.reportsOf m.id = db.directory.activity.filter (·.publisherId == m.id) ++ rows := by
    unfold PublisherDb.reportsOf
    rw [hactivity, hrows]
  -- a backfill of reports that end as no pioneer's makes none
  have hderived : ¬EndsAsPioneer (stints.reportsOf m.id) →
      Roles.standingTypeFromEnrolments (derivedPeriods (stints.reportsOf m.id)) = .normal := by
    intro hends
    by_contra hne
    exact hends (endsAsPioneer_of_standing hne)
  unfold PublisherDb.backfilled MemberDb.standingType
  rw [hperiods, hbefore]
  by_cases hmapped : ∃ oldId, idMap.find .members oldId = some m.id
  · -- an archived member, who has the archived stints and reports alone
    obtain ⟨oldId, hfind⟩ := hmapped
    obtain ⟨hnew, line, hline, m', hm', hid, hmay'⟩ := himported.mapped oldId _ hfind
    obtain rfl := himported.sound.members.keyed.eq_of_key hm' hm hid
    rw [hmay] at hmay'
    obtain ⟨hstints, hnone⟩ := none_of_new h hnew
    have hempty : db.directory.publisherDb.periodsOf m'.id = [] := by
      unfold PublisherDb.periodsOf
      exact List.map_eq_nil_iff.mpr hstints
    rw [filter_mapped himported.injective hfind, hempty, List.nil_append]
    rw [filter_mapped himported.injective hfind] at hof
    rw [hnone, List.nil_append] at hreported
    congr 1
    change Roles.standingTypeFromEnrolments (if archive.periodsOf oldId = [] then _ else archive.periodsOf oldId) = _
    split
    · next hnoStints =>
      refine hderived fun hends => hkeeps.reports oldId line hline hmay'.symm hnoStints ?_
      rw [hreported] at hends
      exact hof.ends hends
    · exact hkeeps.stints oldId line hline hmay'.symm
  · -- a member who was there, or whose line another one has replaced
    have hunmapped : ∀ oldId, idMap.find .members oldId ≠ some m.id := fun oldId hfind => hmapped ⟨oldId, hfind⟩
    rw [filter_unmapped hunmapped] at hof
    rw [hof.eq_nil, List.append_nil] at hreported
    rw [filter_unmapped hunmapped, List.map_nil, List.append_nil]
    congr 1
    split
    · next hnoStints =>
      rw [hnoStints]
      refine hderived ?_
      rw [hreported]
      by_cases hnew : db.directory.nextMemberId ≤ m.id
      · rw [(none_of_new h hnew).2]
        rintro ⟨r, hr, -⟩
        cases hr
      · obtain ⟨m₀, hm₀, hid₀, hmay₀⟩ := himported.old m hm (Nat.not_le.mp hnew)
        rw [← hid₀] at hnoStints ⊢
        exact hkeeps.backfilled m₀ hm₀ (hmay₀.trans hmay) hnoStints
    · rfl

/-- **An import keeps the mirror** when it makes a standing pioneer of no one who may be one, and seats no one in an
identity role. -/
theorem runCongregationImport_sound (h : db.Sound) (hkeeps : archive.KeepsMirror db)
    (hexec : (runCongregationImport rt seesAll archive).exec db = (.ok (), db')) : db'.Sound := by
  unfold runCongregationImport at hexec
  obtain ⟨idMap, db₇, hpeople, hexec⟩ := Tx.exec_bind_ok.mp hexec
  obtain ⟨db₈, hreports, hexec⟩ := Tx.exec_seq_ok.mp hexec
  obtain ⟨db₉, hstints, hexec⟩ := Tx.exec_seq_ok.mp hexec
  obtain ⟨counts, db₁₀, hfill, hret⟩ := Tx.exec_bind_ok.mp hexec
  obtain ⟨-, rfl⟩ := Tx.exec_pure_ok.mp hret
  have himported := importPeople_imported h hkeeps hpeople
  have hthere : ∀ oldId p, idMap.find .members oldId = some p → p ∈ db₇.directory.members.map (·.id) := by
    intro oldId p hfind
    obtain ⟨-, _, -, m, hm, rfl, -⟩ := himported.mapped oldId p hfind
    exact List.mem_map_of_mem hm
  have hreported := importPublisherActivities_imported himported.sound.reports hthere hreports
  obtain ⟨activity, next, hdb₈⟩ := hreported.written
  have hdirectory₈ : db₈.directory = { db₇.directory with activity := activity } := by
    rw [hdb₈]
    rfl
  have hsound₈ : IdentitySound (Founded db₈.nextRoleId db₈.people.otherEmails) nobody db₈.directory := by
    have hknown := hreported.known
    rw [hdirectory₈] at hknown ⊢
    rw [hdb₈]
    exact himported.sound.withReports hknown
  -- the stints, first the archived ones and then the derived ones
  obtain ⟨directory₉, hexec₉, rfl⟩ := Tx.exec_on_ok.mp hstints
  obtain ⟨stints, hopened, rfl⟩ := inEnrolments_ok hexec₉
  obtain ⟨directory₁₀, hexec₁₀, rfl⟩ := Tx.exec_on_ok.mp hfill
  obtain ⟨filled, hfilled, rfl⟩ := inEnrolments_ok hexec₁₀
  have hthere₈ : ∀ oldId p, idMap.find .members oldId = some p → p ∈ db₈.directory.publisherDb.members := by
    rw [hdirectory₈]
    exact hthere
  obtain ⟨hkeyed, hmembers, hactivity, hperiods⟩ := importPioneerEnrolments_periods hsound₈.stints hthere₈ hopened
  have hseen : (db₈.directory.withStints stints).publisherDb = stints := withStints_publisherDb hmembers hactivity
  have hfrom : backfillCongregationEnrolments.exec stints = (.ok counts, filled) := by
    rw [← hseen]
    exact hfilled
  obtain ⟨hkeyed', hmembers', hactivity', hperiods'⟩ := backfillCongregation_writes hkeyed hfrom
  show IdentitySound (Founded db₈.nextRoleId db₈.people.otherEmails) nobody (db₈.directory.withStints filled)
  refine hsound₈.restint hkeyed' (hmembers'.trans hmembers) (hactivity'.trans hactivity) (fun _ hq => hq) ?_
  intro m hm _ hmay
  have hm₇ : m ∈ db₇.directory.members := by
    rw [hdirectory₈] at hm
    exact hm
  have hmember : m.id ∈ stints.members := by
    rw [hmembers]
    exact List.mem_map_of_mem hm
  have hsame : db₈.directory.publisherDb.periodsOf m.id = db₇.directory.publisherDb.periodsOf m.id := by
    rw [hdirectory₈]
    rfl
  have hstanding : db₈.directory.standingType m.id = db₇.directory.standingType m.id := by
    unfold MemberDb.standingType
    rw [hsame]
  rw [hperiods' m.id hmember, hstanding]
  refine standing_kept h hkeeps himported hreported hm₇ hmay hactivity ?_
  rw [hperiods, hsame]

end Import

end Unitae.Settings
