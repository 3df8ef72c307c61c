import Mathlib.Data.List.DropRight
import Unitae.Base.JsonShape
import Unitae.Text

/-!
# Unitae — the assembly map as GeoJSON

`parseGeoJsonImport` splits a document into zones and the congregation's perimeter, and
`buildGeoJsonExport` writes both back. What the parser returns is in a normal form (a trimmed name, a
colour it knows, rings that are closed) of which every normalisation is a fixed point, so a document
written from it is read back unchanged. Coordinates are exact rationals.
-/

namespace Unitae.Territories

open Unitae.Base (Json)
open Unitae.Base.Json

/-! ## Overlays -/

structure CardOverlayPath where
  lat : Rat
  lng : Rat
deriving DecidableEq, Repr

structure CardOverlay where
  id : Nat
  name : Option String
  color : String
  paths : List CardOverlayPath
deriving DecidableEq, Repr

structure CardOverlayDraft where
  name : Option String
  color : String
  paths : List CardOverlayPath
deriving DecidableEq, Repr

def CardOverlay.draft (o : CardOverlay) : CardOverlayDraft := ⟨o.name, o.color, o.paths⟩

/-- `/^[0-9a-fA-F]$/`. -/
def isHexDigit (c : Char) : Bool :=
  ('0' ≤ c && c ≤ '9') || ('a' ≤ c && c ≤ 'f') || ('A' ≤ c && c ≤ 'F')

/-- `HEX_COLOR_PATTERN`, `/^#[0-9a-fA-F]{6}$/`. -/
def hexColorPattern (s : String) : Bool :=
  match s.toList with
  | '#' :: digits => digits.length == 6 && digits.all isHexDigit
  | _ => false

def defaultOverlayColor : String := "#C2175B"

/-- The texts of the schema library for a number out of its range. -/
structure RangeMessages where
  tooSmall : Int → String
  tooBig : Int → String

def RangeMessages.english : RangeMessages where
  tooSmall bound := "Too small: expected number to be >=" ++ toString bound
  tooBig bound := "Too big: expected number to be <=" ++ toString bound

/-- The messages of `z.number().gte(low).lte(high)`. -/
def rangeIssues (texts : RangeMessages) (low high : Int) (n : Rat) : List String :=
  (if (low : Rat) ≤ n then [] else [texts.tooSmall low]) ++
    (if n ≤ (high : Rat) then [] else [texts.tooBig high])

/-- `cardOverlayPointSchema`. -/
def pointIssues (texts : RangeMessages) (point : CardOverlayPath) : List String :=
  rangeIssues texts (-90) 90 point.lat ++ rangeIssues texts (-180) 180 point.lng

/-- The transform of `cardOverlayPathsSchema`. -/
def closeRing (points : List CardOverlayPath) : List CardOverlayPath :=
  match points.head?, points.getLast? with
  | some first, some last =>
    if first.lat = last.lat ∧ first.lng = last.lng then points
    else points ++ [⟨first.lat, first.lng⟩]
  | _, _ => points

/-- `cardOverlayPathsSchema.safeParse`: the messages of its issues, or the closed ring. -/
def cardOverlayPathsSchema (texts : RangeMessages) (points : List CardOverlayPath) :
    Except (List String) (List CardOverlayPath) :=
  let issues := points.flatMap (pointIssues texts) ++
    (if points.length < 3 then ["Un polygone doit contenir au moins 3 sommets"] else [])
  if issues.isEmpty then .ok (closeRing points) else .error issues

/-! ## GeoJSON -/

/-- `[longitude, latitude]`. -/
abbrev Position := Rat × Rat

abbrev Ring := List Position

inductive Geometry where
  | polygon (coordinates : { rings : List Ring // rings ≠ [] })
  | multiPolygon (coordinates : { polygons : List { rings : List Ring // rings ≠ [] } // polygons ≠ [] })

structure FeatureProperties where
  name : Option String
  color : Option String
  stroke : Option String
  fill : Option String
  role : Option String

structure Feature where
  properties : Option FeatureProperties
  geometry : Geometry

def geoJsonPositionSchema : Json → Option Position := pair? number?

def geoJsonPolygonSchema (j : Json) : Option Geometry := do
  let fields ← object? j
  required? (literal? "Polygon") "type" fields
  let coordinates ← required? (arrayMin1? (array? geoJsonPositionSchema)) "coordinates" fields
  some (.polygon coordinates)

def geoJsonMultiPolygonSchema (j : Json) : Option Geometry := do
  let fields ← object? j
  required? (literal? "MultiPolygon") "type" fields
  let coordinates ←
    required? (arrayMin1? (arrayMin1? (array? geoJsonPositionSchema))) "coordinates" fields
  some (.multiPolygon coordinates)

def featurePropertiesSchema (j : Json) : Option FeatureProperties := do
  let fields ← object? j
  let name ← nullish? string? "name" fields
  let color ← optional? string? "color" fields
  let stroke ← optional? string? "stroke" fields
  let fill ← optional? string? "fill" fields
  let role ← optional? string? "role" fields
  some ⟨name, color, stroke, fill, role⟩

def geoJsonFeatureSchema (j : Json) : Option Feature := do
  let fields ← object? j
  required? (literal? "Feature") "type" fields
  let properties ← nullish? featurePropertiesSchema "properties" fields
  let geometry ←
    required? (fun g => geoJsonPolygonSchema g <|> geoJsonMultiPolygonSchema g) "geometry" fields
  some ⟨properties, geometry⟩

def featureCollectionSchema (j : Json) : Option (List Feature) := do
  let fields ← object? j
  required? (literal? "FeatureCollection") "type" fields
  let features ← required? (arrayMin1? geoJsonFeatureSchema) "features" fields
  some features.1

/-- `geoJsonInputSchema.safeParse`, with a lone feature as a list of one. -/
def geoJsonInputSchema (j : Json) : Option (List Feature) :=
  (geoJsonFeatureSchema j).map (fun feature => [feature]) <|> featureCollectionSchema j

/-! ## Import -/

structure GeoJsonImport where
  zones : List CardOverlayDraft
  perimeter : Option (List CardOverlayPath)
deriving DecidableEq, Repr

def ringToPaths (ring : Ring) : List CardOverlayPath := ring.map fun position => ⟨position.2, position.1⟩

def pickColor (properties : Option FeatureProperties) : String :=
  let candidate := properties.bind fun p => p.color <|> p.stroke <|> p.fill
  match candidate with
  | some color => if hexColorPattern color then color else defaultOverlayColor
  | none => defaultOverlayColor

def pickName (properties : Option FeatureProperties) : Option String :=
  match properties.bind (·.name) with
  | none => none
  | some value =>
    let trimmed := trim value
    if trimmed.isEmpty then none else some trimmed

/-- `paths.error.issues[0]?.message ?? 'invalide'`. -/
def firstIssue (issues : List String) : String := issues.head?.getD "invalide"

/-- The outer ring of each polygon of a feature. -/
def Geometry.outerRings : Geometry → List Ring
  | .polygon coordinates => [coordinates.1.head coordinates.2]
  | .multiPolygon coordinates => coordinates.1.map fun polygon => polygon.1.head polygon.2

/-- One ring of a zone. -/
def importRing (texts : RangeMessages) (name : Option String) (color : String) (out : GeoJsonImport)
    (ring : Ring) : Except String GeoJsonImport :=
  match cardOverlayPathsSchema texts (ringToPaths ring) with
  | .error issues =>
    .error ("Polygone \"" ++ name.getD "sans nom" ++ "\" : " ++ firstIssue issues)
  | .ok paths => .ok { out with zones := out.zones ++ [⟨name, color, paths⟩] }

/-- One turn of the loop of `parseGeoJsonImport`. -/
def importFeature (texts : RangeMessages) (out : GeoJsonImport) (feature : Feature) :
    Except String GeoJsonImport :=
  let isPerimeter := feature.properties.bind (·.role) == some "perimeter"
  let name := pickName feature.properties
  if isPerimeter then
    if out.perimeter.isSome then
      .error "Le fichier contient plusieurs périmètres — un seul est autorisé"
    else
      match feature.geometry with
      | .multiPolygon _ => .error "Le périmètre doit être un Polygon (et non un MultiPolygon)"
      | .polygon coordinates =>
        match cardOverlayPathsSchema texts (ringToPaths (coordinates.1.head coordinates.2)) with
        | .error issues => .error ("Périmètre : " ++ firstIssue issues)
        | .ok paths => .ok { out with perimeter := some paths }
  else
    feature.geometry.outerRings.foldlM (importRing texts name (pickColor feature.properties)) out

def parseGeoJsonImport (texts : RangeMessages) (input : Json) : Except String GeoJsonImport :=
  match geoJsonInputSchema input with
  | none => .error "Le GeoJSON est invalide ou ne contient pas de polygones exploitables"
  | some features =>
    match features.foldlM (importFeature texts) ⟨[], none⟩ with
    | .error message => .error message
    | .ok out =>
      if out.zones.isEmpty ∧ out.perimeter = none then
        .error "Le GeoJSON ne contient aucun polygone valide"
      else .ok out

/-! ## Export -/

def pathsToRing (paths : List CardOverlayPath) : Ring := paths.map fun point => (point.lng, point.lat)

def positionJson (position : Position) : Json := .array [.number position.1, .number position.2]

def ringJson (ring : Ring) : Json := .array (ring.map positionJson)

def polygonFeatureJson (properties : List (String × Json)) (paths : List CardOverlayPath) : Json :=
  .object [("type", .string "Feature"), ("properties", .object properties),
    ("geometry", .object [("type", .string "Polygon"),
      ("coordinates", .array [ringJson (pathsToRing paths)])])]

def nameJson : Option String → Json
  | none => .null
  | some name => .string name

def zoneFeatureJson (overlay : CardOverlay) : Json :=
  polygonFeatureJson [("name", nameJson overlay.name), ("color", .string overlay.color)] overlay.paths

def perimeterFeatureJson (paths : List CardOverlayPath) : Json :=
  polygonFeatureJson [("role", .string "perimeter")] paths

def buildGeoJsonExport (overlays : List CardOverlay) (perimeter : Option (List CardOverlayPath)) :
    Json :=
  let zones := overlays.map zoneFeatureJson
  let features :=
    match perimeter with
    | some paths => if paths.length ≥ 3 then zones ++ [perimeterFeatureJson paths] else zones
    | none => zones
  .object [("type", .string "FeatureCollection"), ("features", .array features)]

/-! ## Names, colours and rings in normal form -/

theorem stripEnds_stripEnds (p : Char → Bool) (cs : List Char) :
    stripEnds p (stripEnds p cs) = stripEnds p cs := by
  change ((cs.dropWhile p).rdropWhile p |>.dropWhile p).rdropWhile p = (cs.dropWhile p).rdropWhile p
  -- The front was stripped first; what is left of it begins as it did.
  have hfront : ((cs.dropWhile p).rdropWhile p).dropWhile p = (cs.dropWhile p).rdropWhile p := by
    rw [List.dropWhile_eq_self_iff]
    intro hlen
    have hinitial := List.rdropWhile_prefix p (cs.dropWhile p)
    have hpos : 0 < (cs.dropWhile p).length := Nat.lt_of_lt_of_le hlen hinitial.length_le
    rw [hinitial.getElem hlen]
    exact List.dropWhile_get_zero_not p cs hpos
  rw [hfront, List.rdropWhile_idempotent]

theorem trim_trim (s : String) : trim (trim s) = trim s := by
  simp only [trim, String.toList_ofList, stripEnds_stripEnds]

theorem hexColorPattern_pickColor (properties : Option FeatureProperties) :
    hexColorPattern (pickColor properties) = true := by
  unfold pickColor
  simp only
  split
  · split
    · assumption
    · decide
  · decide

/-- A name as `pickName` leaves it. -/
def Trimmed (name : Option String) : Prop := ∀ value ∈ name, trim value = value ∧ value.isEmpty = false

theorem trimmed_pickName (properties : Option FeatureProperties) : Trimmed (pickName properties) := by
  unfold pickName
  intro value hvalue
  split at hvalue
  · cases hvalue
  · simp only [Option.mem_def] at hvalue
    split at hvalue
    · cases hvalue
    · rename_i hne
      cases hvalue
      exact ⟨trim_trim _, Bool.eq_false_iff.mpr hne⟩

theorem closeRing_cases (points : List CardOverlayPath) :
    closeRing points = points ∨
      ∃ first, points.head? = some first ∧ closeRing points = points ++ [first] := by
  unfold closeRing
  split
  · split
    · exact .inl rfl
    · rename_i first _ hfirst _ _
      exact .inr ⟨first, hfirst, rfl⟩
  · exact .inl rfl

/-- **A ring is closed once.** -/
theorem closeRing_closeRing (points : List CardOverlayPath) :
    closeRing (closeRing points) = closeRing points := by
  obtain h | ⟨first, hfirst, h⟩ := closeRing_cases points
  · rw [h, h]
  · rw [h]
    have hhead : (points ++ [first]).head? = some first := by simp [hfirst]
    have hlast : (points ++ [first]).getLast? = some first := by simp
    unfold closeRing
    simp only [hhead, hlast, and_self, if_true]

section Rings

variable {texts : RangeMessages} {points paths : List CardOverlayPath}

theorem cardOverlayPathsSchema_eq_ok : cardOverlayPathsSchema texts points = .ok paths ↔
    (∀ point ∈ points, pointIssues texts point = []) ∧ 3 ≤ points.length ∧
      closeRing points = paths := by
  unfold cardOverlayPathsSchema
  by_cases hlen : points.length < 3
  · have : ¬ 3 ≤ points.length := by omega
    simp [hlen, this]
  · have : 3 ≤ points.length := by omega
    by_cases hin : points.flatMap (pointIssues texts) = []
    · simp only [hlen, if_false, List.append_nil, List.isEmpty_iff, hin, if_true, Except.ok.injEq]
      exact ⟨fun heq => ⟨List.flatMap_eq_nil_iff.mp hin, this, heq⟩, fun h => h.2.2⟩
    · have hout : ¬ ∀ point ∈ points, pointIssues texts point = [] :=
        fun h => hin (List.flatMap_eq_nil_iff.mpr h)
      simp only [hlen, if_false, List.append_nil, List.isEmpty_iff, hin, hout, false_and]
      simp

/-- What the schema returns it accepts as it is. -/
theorem cardOverlayPathsSchema_ok (h : cardOverlayPathsSchema texts points = .ok paths) :
    cardOverlayPathsSchema texts paths = .ok paths := by
  obtain ⟨hin, hlen, rfl⟩ := cardOverlayPathsSchema_eq_ok.mp h
  refine cardOverlayPathsSchema_eq_ok.mpr ⟨?_, ?_, closeRing_closeRing points⟩
  · obtain heq | ⟨first, hfirst, heq⟩ := closeRing_cases points
    · rwa [heq]
    · rw [heq]
      intro point hpoint
      -- The corner that closes the ring is its first.
      rcases List.mem_append.mp hpoint with hpoint | hpoint
      · exact hin point hpoint
      · rw [List.mem_singleton.mp hpoint]
        exact hin first (List.mem_of_head? hfirst)
  · obtain heq | ⟨first, _, heq⟩ := closeRing_cases points
    · rwa [heq]
    · rw [heq, List.length_append]
      omega

end Rings

/-! ## What the parser returns -/

structure CardOverlayDraft.Settled (texts : RangeMessages) (draft : CardOverlayDraft) : Prop where
  name : Trimmed draft.name
  color : hexColorPattern draft.color = true
  paths : cardOverlayPathsSchema texts draft.paths = .ok draft.paths

structure GeoJsonImport.Settled (texts : RangeMessages) (out : GeoJsonImport) : Prop where
  zones : ∀ zone ∈ out.zones, zone.Settled texts
  perimeter : ∀ paths ∈ out.perimeter, cardOverlayPathsSchema texts paths = .ok paths

section Import

variable {texts : RangeMessages} {out out' : GeoJsonImport}

theorem importRing_settled {name : Option String} {color : String} {ring : Ring}
    (hname : Trimmed name) (hcolor : hexColorPattern color = true) (h : out.Settled texts)
    (hrun : importRing texts name color out ring = .ok out') : out'.Settled texts := by
  unfold importRing at hrun
  split at hrun
  · cases hrun
  · rename_i paths hpaths
    cases hrun
    refine ⟨?_, h.perimeter⟩
    intro zone hzone
    rcases List.mem_append.mp hzone with hzone | hzone
    · exact h.zones zone hzone
    · rw [List.mem_singleton.mp hzone]
      exact ⟨hname, hcolor, cardOverlayPathsSchema_ok hpaths⟩

/-- A loop that throws keeps what each of its turns keeps. -/
theorem foldlM_keeps {σ α : Type} {turn : σ → α → Except String σ} {P : σ → Prop}
    (hturn : ∀ s x s', P s → turn s x = .ok s' → P s') :
    ∀ (xs : List α) {s s' : σ}, P s → xs.foldlM turn s = .ok s' → P s'
  | [], _, _, h, hrun => by
    cases hrun
    exact h
  | x :: xs, s, s', h, hrun => by
    rw [List.foldlM_cons] at hrun
    cases hx : turn s x with
    | error message => simp [hx, bind, Except.bind] at hrun
    | ok next =>
      rw [hx] at hrun
      exact foldlM_keeps hturn xs (hturn s x next h hx) hrun

theorem importFeature_settled {feature : Feature} (h : out.Settled texts)
    (hrun : importFeature texts out feature = .ok out') : out'.Settled texts := by
  unfold importFeature at hrun
  simp only at hrun
  split at hrun
  · split at hrun
    · cases hrun
    · split at hrun
      · cases hrun
      · split at hrun
        · cases hrun
        · rename_i paths hpaths
          cases hrun
          refine ⟨h.zones, ?_⟩
          rintro _ ⟨⟩
          exact cardOverlayPathsSchema_ok hpaths
  · refine foldlM_keeps (fun s ring s' hs hturn => ?_) _ h hrun
    exact importRing_settled (trimmed_pickName _) (hexColorPattern_pickColor _) hs hturn

/-- **What the parser returns is in normal form**, and is not empty. -/
theorem parseGeoJsonImport_settled {input : Json} (h : parseGeoJsonImport texts input = .ok out) :
    out.Settled texts ∧ (out.zones ≠ [] ∨ out.perimeter ≠ none) := by
  unfold parseGeoJsonImport at h
  split at h
  · cases h
  · split at h
    · cases h
    · rename_i read hrun
      split at h
      · cases h
      · rename_i hsome
        cases h
        refine ⟨foldlM_keeps (fun _ _ _ hs hturn => importFeature_settled hs hturn) _ ?_ hrun, ?_⟩
        · exact ⟨by simp, by simp⟩
        · rw [List.isEmpty_iff] at hsome
          tauto

end Import

/-! ## What is read back from an export -/

theorem ringToPaths_pathsToRing (paths : List CardOverlayPath) :
    ringToPaths (pathsToRing paths) = paths := by
  simp [ringToPaths, pathsToRing, Function.comp_def]

theorem array?_ringJson (ring : Ring) : array? geoJsonPositionSchema (ringJson ring) = some ring := by
  have h := @array?_written Position Position geoJsonPositionSchema positionJson id ring
    fun position _ => rfl
  rwa [List.map_id] at h

/-- The feature that a polygon written by the export is read as. -/
def polygonFeature (properties : FeatureProperties) (paths : List CardOverlayPath) : Feature where
  properties := some properties
  geometry := .polygon ⟨[pathsToRing paths], List.cons_ne_nil _ _⟩

theorem geoJsonPolygonSchema_written (ring : Ring) :
    geoJsonPolygonSchema (.object [("type", .string "Polygon"),
      ("coordinates", .array [ringJson ring])]) =
        some (.polygon ⟨[ring], List.cons_ne_nil _ _⟩) := by
  have hrings : array? (array? geoJsonPositionSchema) (.array [ringJson ring]) = some [ring] :=
    @array?_written Ring Ring (array? geoJsonPositionSchema) ringJson id [ring]
      fun ring _ => array?_ringJson ring
  have hcoordinates := arrayMin1?_written hrings (List.cons_ne_nil _ _)
  simp [geoJsonPolygonSchema, object?, required?, Unitae.Base.Json.get, literal?, List.lookup_cons,
    hcoordinates]

theorem geoJsonFeatureSchema_written {fields : List (String × Json)} {properties : FeatureProperties}
    (h : featurePropertiesSchema (.object fields) = some properties) (paths : List CardOverlayPath) :
    geoJsonFeatureSchema (polygonFeatureJson fields paths) =
      some (polygonFeature properties paths) := by
  simp [geoJsonFeatureSchema, polygonFeatureJson, object?, required?, nullish?,
    Unitae.Base.Json.get, literal?, List.lookup_cons, h, geoJsonPolygonSchema_written, polygonFeature]

def zoneFeature (draft : CardOverlayDraft) : Feature :=
  polygonFeature ⟨draft.name, some draft.color, none, none, none⟩ draft.paths

def perimeterFeature (paths : List CardOverlayPath) : Feature :=
  polygonFeature ⟨none, none, none, none, some "perimeter"⟩ paths

theorem geoJsonFeatureSchema_zone (overlay : CardOverlay) :
    geoJsonFeatureSchema (zoneFeatureJson overlay) = some (zoneFeature overlay.draft) := by
  refine geoJsonFeatureSchema_written ?_ overlay.paths
  cases h : overlay.name <;>
    simp [featurePropertiesSchema, object?, nullish?, optional?, Unitae.Base.Json.get, List.lookup_cons,
      nameJson, string?, CardOverlay.draft, h]

theorem geoJsonFeatureSchema_perimeter (paths : List CardOverlayPath) :
    geoJsonFeatureSchema (perimeterFeatureJson paths) = some (perimeterFeature paths) := by
  refine geoJsonFeatureSchema_written ?_ paths
  simp [featurePropertiesSchema, object?, nullish?, optional?, Unitae.Base.Json.get, List.lookup_cons,
    string?]

section Reimport

variable {texts : RangeMessages}

theorem pickName_trimmed {name : Option String} (h : Trimmed name) (color : Option String) :
    pickName (some ⟨name, color, none, none, none⟩) = name := by
  cases name with
  | none => rfl
  | some value =>
    obtain ⟨htrim, hne⟩ := h value rfl
    simp [pickName, htrim, hne]

theorem importFeature_zone {draft : CardOverlayDraft} (h : draft.Settled texts)
    (out : GeoJsonImport) :
    importFeature texts out (zoneFeature draft) =
      .ok { out with zones := out.zones ++ [draft] } := by
  have hname := pickName_trimmed h.name (some draft.color)
  have hcolor : pickColor (some ⟨draft.name, some draft.color, none, none, none⟩) = draft.color := by
    simp [pickColor, h.color]
  have hring : importRing texts draft.name draft.color out (pathsToRing draft.paths) =
      .ok { out with zones := out.zones ++ [draft] } := by
    simp [importRing, ringToPaths_pathsToRing, h.paths]
  simp only [importFeature, zoneFeature, polygonFeature, hname, hcolor, Geometry.outerRings,
    List.head_cons, List.foldlM_cons, List.foldlM_nil, hring]
  rfl

theorem foldlM_zones {drafts : List CardOverlayDraft} (h : ∀ draft ∈ drafts, draft.Settled texts)
    (out : GeoJsonImport) :
    (drafts.map zoneFeature).foldlM (importFeature texts) out =
      .ok { out with zones := out.zones ++ drafts } := by
  induction drafts generalizing out with
  | nil => simp [pure, Except.pure]
  | cons draft drafts ih =>
    have hfirst := importFeature_zone (h draft (List.mem_cons_self ..)) out
    have hrest := ih (fun d hd => h d (List.mem_cons_of_mem _ hd))
      { out with zones := out.zones ++ [draft] }
    rw [List.map_cons, List.foldlM_cons, hfirst]
    change (drafts.map zoneFeature).foldlM (importFeature texts) _ = _
    rw [hrest, List.append_assoc, List.singleton_append]

theorem importFeature_perimeter {paths : List CardOverlayPath}
    (h : cardOverlayPathsSchema texts paths = .ok paths) {out : GeoJsonImport}
    (hnone : out.perimeter = none) :
    importFeature texts out (perimeterFeature paths) = .ok { out with perimeter := some paths } := by
  simp [importFeature, perimeterFeature, polygonFeature, hnone, ringToPaths_pathsToRing, h]

/-- The features an export is read as. -/
def exportedFeatures (drafts : List CardOverlayDraft) (perimeter : Option (List CardOverlayPath)) :
    List Feature :=
  drafts.map zoneFeature ++ (perimeter.map perimeterFeature).toList

theorem array?_exported (overlays : List CardOverlay) (perimeter : Option (List CardOverlayPath)) :
    array? geoJsonFeatureSchema
        (.array (overlays.map zoneFeatureJson ++ (perimeter.map perimeterFeatureJson).toList)) =
      some (exportedFeatures (overlays.map CardOverlay.draft) perimeter) := by
  have hzones : (overlays.map zoneFeatureJson).mapM geoJsonFeatureSchema =
      some ((overlays.map CardOverlay.draft).map zoneFeature) := by
    rw [List.map_map]
    exact mapM_written fun o _ => geoJsonFeatureSchema_zone o
  have hperimeter : ((perimeter.map perimeterFeatureJson).toList).mapM geoJsonFeatureSchema =
      some (perimeter.map perimeterFeature).toList := by
    cases perimeter with
    | none => rfl
    | some paths =>
      simp only [Option.map_some, Option.toList_some, List.mapM_cons, geoJsonFeatureSchema_perimeter,
        List.mapM_nil]
      rfl
  rw [array?, List.mapM_append, hzones, hperimeter]
  rfl

/-- A collection is no feature. -/
theorem geoJsonFeatureSchema_collection (features : Json) :
    geoJsonFeatureSchema
      (.object [("type", .string "FeatureCollection"), ("features", features)]) = none := by
  have htype : required? (literal? "Feature") "type"
      [("type", .string "FeatureCollection"), ("features", features)] = none := by
    simp [required?, Unitae.Base.Json.get, literal?]
  rw [geoJsonFeatureSchema, object?, Option.bind_eq_bind, Option.bind_some, htype]
  rfl

theorem featureCollectionSchema_written {features : Json} {read : { items : List Feature // items ≠ [] }}
    (h : arrayMin1? geoJsonFeatureSchema features = some read) :
    featureCollectionSchema
      (.object [("type", .string "FeatureCollection"), ("features", features)]) = some read.1 := by
  have htype : required? (literal? "FeatureCollection") "type"
      [("type", .string "FeatureCollection"), ("features", features)] = some () := by
    simp [required?, Unitae.Base.Json.get, literal?]
  have hfeatures : required? (arrayMin1? geoJsonFeatureSchema) "features"
      [("type", .string "FeatureCollection"), ("features", features)] = some read := by
    rw [required?, show Unitae.Base.Json.get [("type", .string "FeatureCollection"),
      ("features", features)] "features" = some features by simp [Unitae.Base.Json.get, List.lookup_cons]]
    exact h
  rw [featureCollectionSchema, object?, Option.bind_eq_bind, Option.bind_some, htype,
    Option.bind_eq_bind, Option.bind_some, hfeatures]
  rfl

theorem geoJsonInputSchema_export {overlays : List CardOverlay}
    {perimeter : Option (List CardOverlayPath)} (hlen : ∀ paths ∈ perimeter, 3 ≤ paths.length)
    (hsome : overlays ≠ [] ∨ perimeter ≠ none) :
    geoJsonInputSchema (buildGeoJsonExport overlays perimeter) =
      some (exportedFeatures (overlays.map CardOverlay.draft) perimeter) := by
  -- A perimeter of three corners is not left out.
  have hwritten : buildGeoJsonExport overlays perimeter =
      .object [("type", .string "FeatureCollection"), ("features",
        .array (overlays.map zoneFeatureJson ++ (perimeter.map perimeterFeatureJson).toList))] := by
    cases perimeter with
    | none => simp [buildGeoJsonExport]
    | some paths => simp [buildGeoJsonExport, hlen paths rfl]
  have hne : exportedFeatures (overlays.map CardOverlay.draft) perimeter ≠ [] := by
    cases perimeter <;> simp_all [exportedFeatures]
  have hfeatures := arrayMin1?_written (array?_exported overlays perimeter) hne
  rw [hwritten, geoJsonInputSchema, geoJsonFeatureSchema_collection,
    featureCollectionSchema_written hfeatures]
  rfl

/-- **A document in normal form is read back.** -/
theorem parseGeoJsonImport_export {overlays : List CardOverlay} {out : GeoJsonImport}
    (hdrafts : overlays.map CardOverlay.draft = out.zones) (h : out.Settled texts)
    (hsome : out.zones ≠ [] ∨ out.perimeter ≠ none) :
    parseGeoJsonImport texts (buildGeoJsonExport overlays out.perimeter) = .ok out := by
  have hlen : ∀ paths ∈ out.perimeter, 3 ≤ paths.length :=
    fun paths hp => (cardOverlayPathsSchema_eq_ok.mp (h.perimeter paths hp)).2.1
  have hoverlays : overlays ≠ [] ∨ out.perimeter ≠ none := by
    rw [← hdrafts] at hsome
    exact hsome.imp_left fun hne heq => hne (by rw [heq, List.map_nil])
  have hrun : (exportedFeatures out.zones out.perimeter).foldlM (importFeature texts) ⟨[], none⟩ =
      .ok out := by
    rw [exportedFeatures, List.foldlM_append, foldlM_zones h.zones]
    obtain ⟨zones, perimeter⟩ := out
    cases perimeter with
    | none => rfl
    | some paths =>
      change ([perimeterFeature paths].foldlM (importFeature texts) _) = _
      rw [List.foldlM_cons, importFeature_perimeter (h.perimeter paths rfl) rfl]
      rfl
  have hempty : ¬ (out.zones.isEmpty = true ∧ out.perimeter = none) := by
    rw [List.isEmpty_iff]
    tauto
  unfold parseGeoJsonImport
  simp only [geoJsonInputSchema_export hlen hoverlays, hdrafts, hrun, hempty, if_false]

end Reimport

/-! ## Round trip -/

/-- A zone that some import returns. -/
def ImportedZone (texts : RangeMessages) (draft : CardOverlayDraft) : Prop :=
  ∃ input out, parseGeoJsonImport texts input = .ok out ∧ draft ∈ out.zones

/-- A perimeter that some import returns. -/
def ImportedPerimeter (texts : RangeMessages) (paths : List CardOverlayPath) : Prop :=
  ∃ input out, parseGeoJsonImport texts input = .ok out ∧ out.perimeter = some paths

/-- **Assembly maps survive an export and a re-import.** Zones and a perimeter that imports returned, be it
from several documents, come back in the same order; in particular what one document was read as. -/
theorem reimport_export (texts : RangeMessages) :
    (∀ (overlays : List CardOverlay) (perimeter : Option (List CardOverlayPath)),
      (∀ overlay ∈ overlays, ImportedZone texts overlay.draft) →
      (∀ paths ∈ perimeter, ImportedPerimeter texts paths) →
      (overlays ≠ [] ∨ perimeter ≠ none) →
      parseGeoJsonImport texts (buildGeoJsonExport overlays perimeter) =
        .ok ⟨overlays.map CardOverlay.draft, perimeter⟩) ∧
    (∀ (input : Json) (out : GeoJsonImport) (overlays : List CardOverlay),
      parseGeoJsonImport texts input = .ok out → overlays.map CardOverlay.draft = out.zones →
      parseGeoJsonImport texts (buildGeoJsonExport overlays out.perimeter) = .ok out) := by
  constructor
  · intro overlays perimeter hzones hperimeter hsome
    have hsettled : (GeoJsonImport.mk (overlays.map CardOverlay.draft) perimeter).Settled texts := by
      refine ⟨?_, ?_⟩
      · intro draft hdraft
        obtain ⟨overlay, hmem, rfl⟩ := List.mem_map.mp hdraft
        obtain ⟨input, out, hparse, hin⟩ := hzones overlay hmem
        exact (parseGeoJsonImport_settled hparse).1.zones _ hin
      · intro paths hpaths
        obtain ⟨input, out, hparse, hin⟩ := hperimeter paths hpaths
        exact (parseGeoJsonImport_settled hparse).1.perimeter paths hin
    refine parseGeoJsonImport_export rfl hsettled (hsome.imp_left fun hne heq => hne ?_)
    exact List.map_eq_nil_iff.mp heq
  · intro input out overlays hparse hdrafts
    obtain ⟨hsettled, hsome⟩ := parseGeoJsonImport_settled hparse
    exact parseGeoJsonImport_export hdrafts hsettled hsome

/-- A zone in two parts, drawn open, beside a perimeter. -/
def openDrawing : Json :=
  let corner (lng lat : Rat) : Json := .array [.number lng, .number lat]
  .object [("type", .string "FeatureCollection"), ("features", .array [
    .object [("type", .string "Feature"),
      ("properties", .object [("role", .string "perimeter")]),
      ("geometry", .object [("type", .string "Polygon"),
        ("coordinates", .array [.array [corner 0 0, corner 9 0, corner 9 9]])])],
    .object [("type", .string "Feature"),
      ("properties", .object [("name", .string " Nord "), ("stroke", .string "#12AB9f")]),
      ("geometry", .object [("type", .string "MultiPolygon"),
        ("coordinates", .array [.array [.array [corner 1 1, corner 2 1, corner 2 2]],
          .array [.array [corner 3 3, corner 4 3, corner 4 4, corner 3 3]]])])]])]

def closedDrawing : GeoJsonImport where
  zones := [⟨some "Nord", "#12AB9f", [⟨1, 1⟩, ⟨1, 2⟩, ⟨2, 2⟩, ⟨1, 1⟩]⟩,
    ⟨some "Nord", "#12AB9f", [⟨3, 3⟩, ⟨3, 4⟩, ⟨4, 4⟩, ⟨3, 3⟩]⟩]
  perimeter := some [⟨0, 0⟩, ⟨0, 9⟩, ⟨9, 9⟩, ⟨0, 0⟩]

theorem parse_openDrawing : parseGeoJsonImport .english openDrawing = .ok closedDrawing := by
  rfl

def drawnOverlays : List CardOverlay :=
  closedDrawing.zones.map fun zone => ⟨1, zone.name, zone.color, zone.paths⟩

theorem reimport_openDrawing :
    parseGeoJsonImport .english (buildGeoJsonExport drawnOverlays closedDrawing.perimeter) =
        .ok ⟨drawnOverlays.map CardOverlay.draft, closedDrawing.perimeter⟩ ∧
      parseGeoJsonImport .english (buildGeoJsonExport drawnOverlays closedDrawing.perimeter) =
        .ok closedDrawing := by
  have himported : ∀ overlay ∈ drawnOverlays, ImportedZone .english overlay.draft := by
    intro overlay hmem
    have hdraft : overlay.draft ∈ drawnOverlays.map CardOverlay.draft := List.mem_map_of_mem hmem
    exact ⟨openDrawing, closedDrawing, parse_openDrawing, hdraft⟩
  refine ⟨(reimport_export .english).1 drawnOverlays closedDrawing.perimeter himported ?_ (by decide),
    (reimport_export .english).2 openDrawing closedDrawing drawnOverlays parse_openDrawing rfl⟩
  exact fun paths hpaths => ⟨openDrawing, closedDrawing, parse_openDrawing, hpaths⟩

end Unitae.Territories
