import Unitae.Base.IpText
import Unitae.Base.Table
import Unitae.Events.Notices
import Unitae.Text

/-!
# Unitae — the document a programme link leads to

`resolveProgrammeLink` looks for a programme document of the board that shows an event, and
`getDynamicDocumentData` collects what such a document shows. Both select by the templates a
configuration names, else by the key in `dynamicRef`. They part over a configuration that does not parse:
the renderer then goes by the key, and the resolver passes the document over.
-/

namespace Unitae.Events

/-! ## What a document shows (`dynamic-documents.server.ts`) -/

/-- A released event of this month at the earliest. -/
def isShown (tz : LocalTime) (now : Instant) (e : Event) : Bool :=
  e.status == .released && startOfCurrentMonth tz now ≤ e.startDate

def fetchProgrammeByIds (tz : LocalTime) (now : Instant) (db : EventDb) (templateIds : List Nat) :
    List Event :=
  (db.events.filter fun e => e.templateId.any templateIds.contains && isShown tz now e).mergeSort
    fun a b => a.startDate ≤ b.startDate

def fetchProgrammeByKey (tz : LocalTime) (now : Instant) (db : EventDb) (templateKey : String) :
    List Event :=
  (db.events.filter fun e =>
    (e.templateId.bind db.templateById).any (·.key == templateKey) && isShown tz now e).mergeSort
    fun a b => a.startDate ≤ b.startDate

/-- What a document of the board shows. Only a programme shows events. -/
inductive DynamicDocumentData where
  | organigram
  | publisherGroups
  | pioneers
  | programme (events : List Event) (templateKey : Option String)
deriving DecidableEq, Repr

/-- `parseProgrammeConfig`: nothing for a null column and for a malformed one. -/
def BoardDynamicDocument.parsedConfig (document : BoardDynamicDocument) : Option (List Nat) :=
  document.dynamicConfig.join

def getDynamicDocumentData (tz : LocalTime) (now : Instant) (db : EventDb)
    (document : BoardDynamicDocument) : Option DynamicDocumentData :=
  if document.dynamicType = "organigram" then some .organigram
  else if document.dynamicType = "publisher-groups" then some .publisherGroups
  else if document.dynamicType = "pioneers" then some .pioneers
  else if document.dynamicType = "programme" then
    match document.parsedConfig with
    | some templateIds => some (.programme (fetchProgrammeByIds tz now db templateIds) none)
    | none =>
      if isTruthy document.dynamicRef then
        some (.programme (fetchProgrammeByKey tz now db (document.dynamicRef.getD ""))
          document.dynamicRef)
      else none
  else none

/-- The event is among those the document shows. -/
def Shows (tz : LocalTime) (now : Instant) (db : EventDb) (document : BoardDynamicDocument)
    (e : Event) : Prop :=
  ∃ events templateKey,
    getDynamicDocumentData tz now db document = some (.programme events templateKey) ∧ e ∈ events

section Shows

variable {tz : LocalTime} {now : Instant} {db : EventDb} {document : BoardDynamicDocument} {e : Event}

/-- The key of the event's template, when it is not empty. -/
def EventDb.keyOf (db : EventDb) (e : Event) : Option String :=
  ((e.templateId.bind db.templateById).map (·.key)).filter (· != "")

theorem mem_fetchProgrammeByIds {templateIds : List Nat} (he : e ∈ db.events) :
    e ∈ fetchProgrammeByIds tz now db templateIds
      ↔ (∃ t ∈ e.templateId, t ∈ templateIds) ∧ isShown tz now e = true := by
  simp [fetchProgrammeByIds, he, Option.any_eq_true]

theorem mem_fetchProgrammeByKey {templateKey : String} (he : e ∈ db.events) :
    e ∈ fetchProgrammeByKey tz now db templateKey
      ↔ (∃ template ∈ e.templateId.bind db.templateById, template.key = templateKey) ∧
        isShown tz now e = true := by
  simp [fetchProgrammeByKey, he, Option.any_eq_true]

/-- The other documents show no event. -/
theorem Shows.programme (h : Shows tz now db document e) : document.dynamicType = "programme" := by
  obtain ⟨events, templateKey, hdata, -⟩ := h
  unfold getDynamicDocumentData at hdata
  split at hdata
  · cases hdata
  · split at hdata
    · cases hdata
    · split at hdata
      · cases hdata
      · split at hdata
        · assumption
        · cases hdata

theorem getDynamicDocumentData_programme (h : document.dynamicType = "programme") :
    getDynamicDocumentData tz now db document = match document.parsedConfig with
      | some templateIds => some (.programme (fetchProgrammeByIds tz now db templateIds) none)
      | none =>
        if isTruthy document.dynamicRef then
          some (.programme (fetchProgrammeByKey tz now db (document.dynamicRef.getD ""))
            document.dynamicRef)
        else none := by
  simp [getDynamicDocumentData, h]

/-- With a configuration that parses, the templates it names decide. -/
theorem shows_of_config {templateIds : List Nat} (h : document.dynamicType = "programme")
    (hconfig : document.parsedConfig = some templateIds) (he : e ∈ db.events) :
    Shows tz now db document e ↔ (∃ t ∈ e.templateId, t ∈ templateIds) ∧ isShown tz now e = true := by
  rw [← mem_fetchProgrammeByIds he, Shows, getDynamicDocumentData_programme h, hconfig]
  constructor
  · rintro ⟨events, templateKey, hdata, hmem⟩
    cases hdata
    exact hmem
  · exact fun hmem => ⟨_, _, rfl, hmem⟩

/-- Without one, the key in `dynamicRef` does. -/
theorem shows_of_ref (h : document.dynamicType = "programme") (hconfig : document.parsedConfig = none)
    (he : e ∈ db.events) :
    Shows tz now db document e
      ↔ (∃ key ∈ db.keyOf e, document.dynamicRef = some key) ∧ isShown tz now e = true := by
  rw [Shows, getDynamicDocumentData_programme h, hconfig]
  cases href : document.dynamicRef with
  | none =>
    refine iff_of_false ?_ ?_
    · rintro ⟨events, templateKey, hdata, -⟩
      cases hdata
    · rintro ⟨⟨key, -, hkey⟩, -⟩
      cases hkey
  | some ref =>
    have hkey : (∃ key ∈ db.keyOf e, some ref = some key)
        ↔ ref ≠ "" ∧ ∃ template ∈ e.templateId.bind db.templateById, template.key = ref := by
      cases htemplate : e.templateId.bind db.templateById with
      | none => simp [EventDb.keyOf, htemplate]
      | some template =>
        simp [EventDb.keyOf, htemplate]
        grind
    rw [hkey]
    by_cases hempty : ref = ""
    · simp [isTruthy, hempty]
    · have htruthy : isTruthy (some ref) = true := by simpa [isTruthy] using hempty
      simp only [htruthy, if_true, Option.getD_some]
      rw [and_assoc, and_iff_right hempty, ← mem_fetchProgrammeByKey he]
      constructor
      · rintro ⟨events, templateKey, hdata, hmem⟩
        cases hdata
        exact hmem
      · exact fun hmem => ⟨_, _, rfl, hmem⟩

end Shows

/-! ## What the link leads to -/

section Link

variable {tz : LocalTime} {now : Instant} {db : EventDb} {e : Event}

theorem viewerLink_toList {m eventId : Nat} : (viewerLink m eventId).toList =
    "/board/dynamic/".toList ++ ((toString m).toList ++
      ("/viewer?eventId=".toList ++ (toString eventId).toList)) := by
  delta viewerLink
  simp only [String.toList_append, List.append_assoc]

theorem viewerLink_inj {m n eventId : Nat} (h : viewerLink m eventId = viewerLink n eventId) :
    m = n := by
  have hchars := congrArg String.toList h
  rw [viewerLink_toList, viewerLink_toList, List.append_cancel_left_eq] at hchars
  exact decimalText_inj (List.append_cancel_right hchars)

theorem viewerLink_ne_board {m eventId : Nat} : viewerLink m eventId ≠ "/board" := by
  intro h
  have hlength := congrArg (fun s : String => s.toList.length) h
  simp [viewerLink_toList] at hlength

/-- The documents the resolver looks at. -/
def EventDb.programmes (db : EventDb) : List BoardDynamicDocument :=
  (db.dynamicDocuments.filter (·.dynamicType == "programme")).mergeSort fun a b => a.id ≤ b.id

theorem mem_programmes {document : BoardDynamicDocument} : document ∈ db.programmes
    ↔ document ∈ db.dynamicDocuments ∧ document.dynamicType = "programme" := by
  simp [EventDb.programmes]

/-- How the resolver goes about a renderable event of a template. -/
inductive Resolved (db : EventDb) (e : Event) : String → Prop where
  | config (document : BoardDynamicDocument) (templateIds : List Nat) (hmem : document ∈ db.programmes)
      (hconfig : document.parsedConfig = some templateIds) (ht : ∃ t ∈ e.templateId, t ∈ templateIds) :
      Resolved db e (viewerLink document.id e.id)
  | ref (document : BoardDynamicDocument) (key : String) (hmem : document ∈ db.programmes)
      (hconfig : document.dynamicConfig = none) (hkey : key ∈ db.keyOf e)
      (href : document.dynamicRef = some key) : Resolved db e (viewerLink document.id e.id)
  | none (hconfig : ∀ document ∈ db.programmes, ∀ templateIds, document.parsedConfig = some templateIds →
      ∀ t ∈ e.templateId, t ∉ templateIds)
      (href : ∀ document ∈ db.programmes, document.dynamicConfig = none → ∀ key ∈ db.keyOf e,
        document.dynamicRef ≠ some key) : Resolved db e "/board"

theorem breadth_eq_some {templateId : Nat} {document : BoardDynamicDocument} {p : Nat × Nat} :
    document.breadth templateId = some p ↔ ∃ templateIds,
      document.parsedConfig = some templateIds ∧ templateId ∈ templateIds ∧
        p = (templateIds.length, document.id) := by
  unfold BoardDynamicDocument.breadth BoardDynamicDocument.parsedConfig
  rcases document.dynamicConfig with - | - | templateIds
  · simp
  · simp
  · by_cases hmem : templateId ∈ templateIds
    · simp [hmem, eq_comm]
    · simp [hmem]

/-- A document that names the template comes first. -/
theorem resolve_of_head {templateId : Nat} {p : Nat × Nat} (htemplate : e.templateId = some templateId)
    (hrow : db.readRenderableEvent tz now e.id = some e)
    (hhead : ((db.programmes.filterMap (·.breadth templateId)).mergeSort
      fun a b => a.1 < b.1 || a.1 == b.1 && a.2 ≤ b.2).head? = some p) :
    resolveProgrammeLink tz now db e.id e.templateId = viewerLink p.2 e.id := by
  unfold EventDb.programmes at hhead
  simp only [resolveProgrammeLink, htemplate, hrow, hhead]

theorem resolve_of_no_head {templateId : Nat} (htemplate : e.templateId = some templateId)
    (hrow : db.readRenderableEvent tz now e.id = some e)
    (hhead : ((db.programmes.filterMap (·.breadth templateId)).mergeSort
      fun a b => a.1 < b.1 || a.1 == b.1 && a.2 ≤ b.2).head? = none) :
    resolveProgrammeLink tz now db e.id e.templateId
      = ((db.programmes.find? fun c => c.dynamicConfig.isNone && (db.keyOf e).isSome &&
          c.dynamicRef == db.keyOf e).map fun document => viewerLink document.id e.id).getD "/board" := by
  have hkey : ((e.templateId.bind db.templateById).map (·.key)).filter (· != "") = db.keyOf e := rfl
  unfold EventDb.programmes at hhead ⊢
  rw [htemplate] at hkey
  simp only [resolveProgrammeLink, htemplate, hrow, hhead, hkey]
  cases List.find? _ _ with
  | none => rfl
  | some document => rfl

theorem resolved {templateId : Nat} (htemplate : e.templateId = some templateId)
    (hrow : db.readRenderableEvent tz now e.id = some e) :
    Resolved db e (resolveProgrammeLink tz now db e.id e.templateId) := by
  cases hhead : ((db.programmes.filterMap (·.breadth templateId)).mergeSort
      fun a b => a.1 < b.1 || a.1 == b.1 && a.2 ≤ b.2).head? with
  | some p =>
    rw [resolve_of_head htemplate hrow hhead]
    have hp := List.mem_mergeSort.mp (List.mem_of_head? hhead)
    obtain ⟨document, hmem, hbreadth⟩ := List.mem_filterMap.mp hp
    obtain ⟨templateIds, hconfig, ht, rfl⟩ := breadth_eq_some.mp hbreadth
    exact .config document templateIds hmem hconfig ⟨templateId, htemplate, ht⟩
  | none =>
    rw [resolve_of_no_head htemplate hrow hhead]
    have hnone : ∀ document ∈ db.programmes, document.breadth templateId = none := by
      intro document hmem
      have hempty := congrArg List.length (List.head?_eq_none_iff.mp hhead)
      rw [List.length_mergeSort, List.length_nil, List.length_eq_zero_iff] at hempty
      exact List.filterMap_eq_nil_iff.mp hempty document hmem
    have hconfigs : ∀ document ∈ db.programmes, ∀ templateIds,
        document.parsedConfig = some templateIds → ∀ t ∈ e.templateId, t ∉ templateIds := by
      intro document hmem templateIds hconfig t ht hin
      rw [htemplate] at ht
      obtain rfl := Option.some.inj ht
      have := breadth_eq_some.mpr ⟨templateIds, hconfig, hin, rfl⟩
      rw [hnone document hmem] at this
      cases this
    cases hfind : db.programmes.find? fun c =>
        c.dynamicConfig.isNone && (db.keyOf e).isSome && c.dynamicRef == db.keyOf e with
    | some document =>
      have hmem := List.mem_of_find?_eq_some hfind
      have hfound := List.find?_some hfind
      simp only [Bool.and_eq_true, Option.isNone_iff_eq_none, Option.isSome_iff_exists,
        beq_iff_eq] at hfound
      obtain ⟨⟨hconfig, key, hkey⟩, href⟩ := hfound
      exact .ref document key hmem hconfig hkey (href.trans hkey)
    | none =>
      refine .none hconfigs fun document hmem hconfig key hkey href => ?_
      have hno := List.find?_eq_none.mp hfind document hmem
      rw [Option.mem_def.mp hkey] at hno
      simp [hconfig, href] at hno

theorem readRenderableEvent_eq (he : db.eventById e.id = some e) :
    db.readRenderableEvent tz now e.id = if isShown tz now e then some e else none := by
  rw [EventDb.readRenderableEvent, he, Option.filter_some]
  rfl

theorem mem_events_of_eventById (he : db.eventById e.id = some e) : e ∈ db.events :=
  List.mem_of_find?_eq_some he

/-- A document whose configuration is absent or well-formed shows what its templates or its key say. -/
theorem shows_iff {document : BoardDynamicDocument} (hwell : document.dynamicConfig ≠ some none)
    (hmem : document ∈ db.programmes) (he : e ∈ db.events) :
    Shows tz now db document e ↔ isShown tz now e = true ∧
      ((∃ templateIds, document.parsedConfig = some templateIds ∧ ∃ t ∈ e.templateId, t ∈ templateIds) ∨
        document.dynamicConfig = none ∧ ∃ key ∈ db.keyOf e, document.dynamicRef = some key) := by
  have htype := (mem_programmes.mp hmem).2
  cases hconfig : document.parsedConfig with
  | some templateIds =>
    have hpresent : document.dynamicConfig ≠ none := by
      intro hnone
      rw [BoardDynamicDocument.parsedConfig, hnone] at hconfig
      cases hconfig
    rw [shows_of_config htype hconfig he, and_comm]
    simp [hpresent]
  | none =>
    have habsent : document.dynamicConfig = none := by
      cases hraw : document.dynamicConfig with
      | none => rfl
      | some parsed =>
        cases parsed with
        | none => exact absurd hraw hwell
        | some templateIds =>
          rw [BoardDynamicDocument.parsedConfig, hraw] at hconfig
          cases hconfig
    rw [shows_of_ref htype hconfig he, and_comm]
    simp [habsent]

/-- **A programme link leads to a document that shows the event.** A link to a viewer is to a document
that shows it, and without one no document does whose configuration is absent or well-formed. -/
theorem programme_link_shows (hids : Keyed (·.id) db.dynamicDocuments)
    (he : db.eventById e.id = some e) :
    (∀ document ∈ db.dynamicDocuments,
        resolveProgrammeLink tz now db e.id e.templateId = viewerLink document.id e.id →
          Shows tz now db document e) ∧
      (resolveProgrammeLink tz now db e.id e.templateId = "/board" →
        ∀ document ∈ db.dynamicDocuments, document.dynamicConfig ≠ some none →
          ¬Shows tz now db document e) := by
  have hevent := mem_events_of_eventById he
  have hread := @readRenderableEvent_eq tz now db e he
  by_cases hrenderable : isShown tz now e = true ∧ ∃ templateId, e.templateId = some templateId
  · obtain ⟨hshown, templateId, htemplate⟩ := hrenderable
    rw [if_pos hshown] at hread
    have hresolved := resolved htemplate hread
    constructor
    · intro document hmem hlink
      rw [hlink] at hresolved
      -- ids tell documents apart, so the link is to the one the resolver chose
      have hsame : ∀ d ∈ db.programmes, viewerLink d.id e.id = viewerLink document.id e.id →
          d = document := fun d hd heq =>
        hids.eq_of_key (mem_programmes.mp hd).1 hmem (viewerLink_inj heq)
      generalize htarget : viewerLink document.id e.id = target at hresolved
      cases hresolved with
      | config d templateIds hd hconfig ht =>
        obtain rfl := hsame d hd htarget.symm
        exact (shows_of_config (mem_programmes.mp hd).2 hconfig hevent).mpr ⟨ht, hshown⟩
      | ref d key hd hconfig hkey href =>
        obtain rfl := hsame d hd htarget.symm
        have hparsed : d.parsedConfig = none := by
          rw [BoardDynamicDocument.parsedConfig, hconfig]
          rfl
        exact (shows_of_ref (mem_programmes.mp hd).2 hparsed hevent).mpr ⟨⟨key, hkey, href⟩, hshown⟩
      | none => exact absurd htarget viewerLink_ne_board
    · intro hboard document hmem hwell hshows
      rw [hboard] at hresolved
      have hd : document ∈ db.programmes := mem_programmes.mpr ⟨hmem, hshows.programme⟩
      generalize htarget : "/board" = target at hresolved
      cases hresolved with
      | config => exact absurd htarget.symm viewerLink_ne_board
      | ref => exact absurd htarget.symm viewerLink_ne_board
      | none hconfig href =>
        rcases ((shows_iff hwell hd hevent).mp hshows).2 with ⟨ids, hparsed, t, ht, hin⟩ | ⟨hnone, key, hkey, heq⟩
        · exact hconfig document hd ids hparsed t ht hin
        · exact href document hd hnone key hkey heq
  · -- no document shows a draft, an event of the past or one without a template
    have hnoTemplate : isShown tz now e = true → e.templateId = none := by
      intro hshown
      cases htemplate : e.templateId with
      | none => rfl
      | some templateId => exact absurd ⟨hshown, templateId, htemplate⟩ hrenderable
    have hboard : resolveProgrammeLink tz now db e.id e.templateId = "/board" := by
      unfold resolveProgrammeLink
      by_cases hshown : isShown tz now e = true
      · rw [hnoTemplate hshown]
      · rw [hread, if_neg hshown]
        cases e.templateId <;> rfl
    constructor
    · intro document _ hlink
      exact absurd (hlink.symm.trans hboard) viewerLink_ne_board
    · intro _ document hmem hwell hshows
      have hd : document ∈ db.programmes := mem_programmes.mpr ⟨hmem, hshows.programme⟩
      obtain ⟨hshown, hselected⟩ := (shows_iff hwell hd hevent).mp hshows
      have hnone := hnoTemplate hshown
      rcases hselected with ⟨_, _, t, ht, _⟩ | ⟨_, key, hkey, _⟩
      · rw [hnone] at ht
        cases ht
      · rw [EventDb.keyOf, hnone] at hkey
        cases hkey

end Link

/-! ### A configuration that does not parse -/

/-- The weekly meeting of tomorrow, and a document about it. -/
def weeklyProgramme (dynamicConfig : Option (Option (List Nat))) : EventDb :=
  { EventDb.empty with
    events := [⟨1, "Réunion", 86400000, 93600000, .released, some 5, 1⟩]
    templates := [⟨5, "Réunion", "weekly", none, "19:00", "21:00"⟩]
    dynamicDocuments := [⟨42, "programme", some "weekly", dynamicConfig⟩] }

theorem weekly_shown : isShown .utc 0 ⟨1, "Réunion", 86400000, 93600000, .released, some 5, 1⟩ = true := by
  decide +kernel

theorem weekly_read (dynamicConfig : Option (Option (List Nat))) :
    (weeklyProgramme dynamicConfig).readRenderableEvent .utc 0 1
      = some ⟨1, "Réunion", 86400000, 93600000, .released, some 5, 1⟩ := by
  refine Eq.trans (@readRenderableEvent_eq .utc 0 (weeklyProgramme dynamicConfig)
    ⟨1, "Réunion", 86400000, 93600000, .released, some 5, 1⟩ rfl) ?_
  rw [weekly_shown]
  rfl

theorem weekly_documents (dynamicConfig : Option (Option (List Nat))) :
    (weeklyProgramme dynamicConfig).dynamicDocuments
      = [⟨42, "programme", some "weekly", dynamicConfig⟩] := rfl

theorem configured_link_shows :
    Shows .utc 0 (weeklyProgramme (some (some [5]))) ⟨42, "programme", some "weekly", some (some [5])⟩
      ⟨1, "Réunion", 86400000, 93600000, .released, some 5, 1⟩ := by
  refine (programme_link_shows (by decide) rfl).1 _ (by decide) ?_
  simp [resolveProgrammeLink, weekly_read, weekly_documents, BoardDynamicDocument.breadth]

/-- The viewer of a document with a malformed configuration shows the event by the key, and the link
is to the board. -/
theorem malformed_document_shows :
    ¬∀ (tz : LocalTime) (now : Instant) (db : EventDb) (e : Event), Keyed (·.id) db.dynamicDocuments →
      db.eventById e.id = some e → resolveProgrammeLink tz now db e.id e.templateId = "/board" →
      ∀ document ∈ db.dynamicDocuments, ¬Shows tz now db document e := by
  intro hall
  have hboard : resolveProgrammeLink .utc 0 (weeklyProgramme (some none)) 1 (some 5) = "/board" := by
    simp [resolveProgrammeLink, weekly_read, weekly_documents, BoardDynamicDocument.breadth]
  refine hall .utc 0 (weeklyProgramme (some none))
    ⟨1, "Réunion", 86400000, 93600000, .released, some 5, 1⟩ (by decide) rfl hboard _
    List.mem_cons_self ?_
  exact (shows_of_ref rfl rfl List.mem_cons_self).mpr ⟨⟨"weekly", by decide, rfl⟩, weekly_shown⟩

end Unitae.Events
