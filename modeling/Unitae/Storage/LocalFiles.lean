import Unitae.Base.PathText
import Unitae.Base.Utf8
import Unitae.Board.Documents

/-!
# Unitae — the stored files (`file-storage.server.ts`)

The files are kept in a bucket or on the local disk, each with its content type; on the disk the type is a file of
its own beside the first. `local_files_contained`: whatever the key, the local driver writes below its root only.
`local_files_bucket`: on the keys the application makes, any run of operations is answered by the local driver as
by the bucket.
-/

namespace Unitae.Storage

open Utf8

/-! ## The file system -/

abbrev Bytes := List Nat

inductive Node where
  | file (bytes : Bytes)
  | directory
deriving DecidableEq

abbrev Disk := List Segment → Option Node

inductive IoError where
  | enoent | enotdir | eisdir | eexist
deriving DecidableEq, Repr

def isFile : Option Node → Bool
  | some (.file _) => true
  | _ => false

namespace Disk

variable (disk : Disk) (path : List Segment)

/-- A file stands where the path asks for a directory. -/
def blocked : Bool := path.inits.any fun p => p != path && isFile (disk p)

def stat : Except IoError Node :=
  if disk.blocked path then .error .enotdir
  else match disk path with
    | none => .error .enoent
    | some node => .ok node

def readFile : Except IoError Bytes :=
  match disk.stat path with
  | .error e => .error e
  | .ok .directory => .error .eisdir
  | .ok (.file bytes) => .ok bytes

def set (node : Option Node) : Disk := fun p => if p = path then node else disk p

def writeFile (bytes : Bytes) : Except IoError Disk :=
  match disk.stat path.dropLast with
  | .error e => .error e
  | .ok (.file _) => .error .enotdir
  | .ok .directory => if disk path = some .directory then .error .eisdir else .ok (disk.set path (some (.file bytes)))

def unlink : Except IoError Disk :=
  match disk.stat path with
  | .error e => .error e
  | .ok .directory => .error .eisdir
  | .ok (.file _) => .ok (disk.set path none)

/-- `fs.unlink` with its failure caught. -/
def tryUnlink : Disk :=
  match disk.unlink path with
  | .error _ => disk
  | .ok removed => removed

/-- `fs.mkdir` with `recursive: true`. -/
def mkdir : Except IoError Disk :=
  if disk.blocked path then .error .enotdir
  else if isFile (disk path) then .error .eexist
  else .ok fun p => if p <+: path ∧ disk p = none then some .directory else disk p

end Disk

/-! ## The local driver -/

inductive StorageError where
  | invalidKey (key : String)
  | io (e : IoError)
deriving DecidableEq

section LocalDriver

variable (root : List Segment) (key : String) (disk : Disk)

/-- The texts are compared, as in the source. -/
def localPath : Except StorageError (List Segment) :=
  let resolved := resolvePath root key.toList
  if pathText resolved ≠ pathText root ∧ ¬pathText root ++ ['/'] <+: pathText resolved then .error (.invalidKey key)
  else .ok resolved

def safeLocalPath : Option (List Segment) := (localPath root key).toOption

/-- `${filePath}.meta`. -/
def metaPath (filePath : List Segment) : List Segment :=
  filePath.dropLast ++ [filePath.getLastD [] ++ ".meta".toList]

def localUpload (body : Bytes) (contentType : String) : Except StorageError Unit × Disk :=
  match localPath root key with
  | .error e => (.error e, disk)
  | .ok filePath =>
    match disk.mkdir filePath.dropLast with
    | .error e => (.error (.io e), disk)
    | .ok made =>
      match made.writeFile filePath body with
      | .error e => (.error (.io e), made)
      | .ok written =>
        match written.writeFile (metaPath filePath) (encode contentType.toList) with
        | .error e => (.error (.io e), written)
        | .ok typed => (.ok (), typed)

def localGetFile : Except StorageError (Option (Bytes × String)) :=
  match safeLocalPath root key with
  | none => .ok none
  | some filePath =>
    match disk.stat filePath with
    | .error .enoent => .ok none
    | .error e => .error (.io e)
    | .ok _ =>
      let contentType := match disk.readFile (metaPath filePath) with
        | .ok bytes => String.ofList (decode bytes)
        | .error _ => "application/octet-stream"
      match disk.readFile filePath with
      | .error e => .error (.io e)
      | .ok body => .ok (some (body, contentType))

def localGetFileBuffer : Except StorageError (Option Bytes) :=
  match safeLocalPath root key with
  | none => .ok none
  | some filePath =>
    match disk.readFile filePath with
    | .error .enoent => .ok none
    | .error e => .error (.io e)
    | .ok body => .ok (some body)

/-- A failure is logged, and the other file is removed all the same. -/
def localDelete : Disk :=
  match safeLocalPath root key with
  | none => disk
  | some filePath => (disk.tryUnlink filePath).tryUnlink (metaPath filePath)

end LocalDriver

/-! ## The bucket -/

abbrev Bucket := String → Option (Bytes × String)

def s3Upload (bucket : Bucket) (key : String) (body : Bytes) (contentType : String) : Bucket :=
  fun k => if k = key then some (body, contentType) else bucket k

def s3Delete (bucket : Bucket) (key : String) : Bucket := fun k => if k = key then none else bucket k

/-! ## Operations -/

inductive FileOp where
  | uploadFile (body : Bytes) (contentType : String)
  | getFile
  | getFileBuffer
  | deleteFileFromStorage
deriving DecidableEq

inductive Answer where
  | done
  | file (found : Option (Bytes × String))
  | buffer (found : Option Bytes)
  | failed (e : StorageError)
deriving DecidableEq

def localOp (root : List Segment) (key : String) (op : FileOp) (disk : Disk) : Answer × Disk :=
  match op with
  | .uploadFile body contentType =>
    match localUpload root key disk body contentType with
    | (.ok _, disk) => (.done, disk)
    | (.error e, disk) => (.failed e, disk)
  | .getFile =>
    match localGetFile root key disk with
    | .ok found => (.file found, disk)
    | .error e => (.failed e, disk)
  | .getFileBuffer =>
    match localGetFileBuffer root key disk with
    | .ok found => (.buffer found, disk)
    | .error e => (.failed e, disk)
  | .deleteFileFromStorage => (.done, localDelete root key disk)

def s3Op (key : String) (op : FileOp) (bucket : Bucket) : Answer × Bucket :=
  match op with
  | .uploadFile body contentType => (.done, s3Upload bucket key body contentType)
  | .getFile => (.file (bucket key), bucket)
  | .getFileBuffer => (.buffer ((bucket key).map (·.1)), bucket)
  | .deleteFileFromStorage => (.done, s3Delete bucket key)

/-- Operations one after the other, each with its key. -/
def runOps {σ : Type} (step : String → FileOp → σ → Answer × σ) : List (String × FileOp) → σ → List Answer × σ
  | [], s => ([], s)
  | (key, op) :: ops, s =>
    let first := step key op s
    let rest := runOps step ops first.2
    (first.1 :: rest.1, rest.2)

/-! ## What the file system does -/

namespace Disk

variable {disk made : Disk} {path p : List Segment} {bytes : Bytes}

theorem blocked_eq_false : disk.blocked path = false ↔ ∀ q, q <+: path → q ≠ path → isFile (disk q) = false := by
  simp only [blocked, List.any_eq_false, List.mem_inits, Bool.and_eq_true, bne_iff_ne, not_and, Bool.not_eq_true]

theorem writeFile_ok (h : disk.writeFile path bytes = .ok made) :
    made = disk.set path (some (.file bytes)) ∧ disk path ≠ some .directory := by
  unfold writeFile at h
  split at h
  · exact absurd h (by simp)
  · exact absurd h (by simp)
  · split at h
    · exact absurd h (by simp)
    · next hnode => exact ⟨(Except.ok.inj h).symm, hnode⟩

theorem unlink_ok (h : disk.unlink path = .ok made) : made = disk.set path none ∧ isFile (disk path) = true := by
  unfold unlink stat at h
  split at h
  · exact absurd h (by simp)
  · exact absurd h (by simp)
  · next bytes hstat =>
    split at hstat
    · exact absurd hstat (by simp)
    · split at hstat
      · exact absurd hstat (by simp)
      · next node hnode =>
        rw [hnode, Except.ok.inj hstat]
        exact ⟨(Except.ok.inj h).symm, rfl⟩

theorem tryUnlink_of_ne (h : isFile (disk path) = true → p ≠ path) : disk.tryUnlink path p = disk p := by
  cases hunlink : disk.unlink path with
  | error e => simp only [tryUnlink, hunlink]
  | ok removed =>
    obtain ⟨rfl, hfile⟩ := unlink_ok hunlink
    simp only [tryUnlink, hunlink]
    exact if_neg (h hfile)

/-- Unlinking makes nothing. -/
theorem tryUnlink_cases (p : List Segment) : disk.tryUnlink path p = disk p ∨ disk.tryUnlink path p = none := by
  cases hunlink : disk.unlink path with
  | error e => exact .inl (by simp only [tryUnlink, hunlink])
  | ok removed =>
    obtain ⟨rfl, -⟩ := unlink_ok hunlink
    simp only [tryUnlink, hunlink, set]
    by_cases hp : p = path
    · exact .inr (if_pos hp)
    · exact .inl (if_neg hp)

theorem mkdir_ok (h : disk.mkdir path = .ok made) :
    made = fun p => if p <+: path ∧ disk p = none then some .directory else disk p := by
  unfold mkdir at h
  split at h
  · exact absurd h (by simp)
  · split at h
    · exact absurd h (by simp)
    · exact (Except.ok.inj h).symm

theorem set_of_ne {node : Option Node} (h : p ≠ path) : disk.set path node p = disk p := if_neg h

end Disk

/-! ## The root -/

/-- The root is a directory, below directories, and not the root of all paths. -/
structure Mounted (root : List Segment) (disk : Disk) : Prop where
  ne_nil : root ≠ []
  proper : ∀ s ∈ root, Segment.Proper s
  directory : ∀ p, p <+: root → disk p = some .directory

section Contained

variable {root filePath p : List Segment} {disk made : Disk} {key : String}

theorem localPath_eq (h : Mounted root disk) (key : String) : localPath root key =
    if root <+: resolvePath root key.toList then .ok (resolvePath root key.toList) else .error (.invalidKey key) := by
  have hproper : ∀ s ∈ resolvePath root key.toList, Segment.Proper s := resolvePath_proper h.proper
  have hbelow := pathText_below_iff h.ne_nil hproper h.proper
  simp only [localPath]
  by_cases hin : root <+: resolvePath root key.toList
  · rw [if_pos hin, if_neg]
    rintro ⟨hne, hnot⟩
    obtain ⟨rest, hrest⟩ := hin
    refine hnot (hbelow.mpr ⟨rest, ?_, hrest.symm⟩)
    rintro rfl
    exact hne (by rw [← hrest, List.append_nil])
  · rw [if_neg hin, if_pos]
    refine ⟨fun heq => hin ?_, fun hstarts => hin ?_⟩
    · rw [pathText_injective hproper h.proper heq]
    · obtain ⟨rest, -, hrest⟩ := hbelow.mp hstarts
      exact ⟨rest, hrest.symm⟩

/-- Where no operation has any business: the root itself, and what is not below it. -/
def Outside (root p : List Segment) : Prop := p = root ∨ ¬root <+: p

theorem outside_of_above (h : p <+: root) : Outside root p := by
  by_cases hp : p = root
  · exact .inl hp
  · exact .inr fun hroot => hp (h.eq_of_length_le hroot.length_le)

theorem metaPath_append {rest : List Segment} (h : rest ≠ []) : metaPath (root ++ rest) = root ++ metaPath rest := by
  obtain ⟨init, last, rfl⟩ := (List.eq_nil_or_concat rest).resolve_left h
  simp [metaPath, ← List.append_assoc]

theorem metaPath_ne_nil : metaPath filePath ≠ [] := List.append_ne_nil_of_right_ne_nil _ (List.cons_ne_nil _ _)

theorem ne_metaPath (hp : Outside root p) (hmeta : p ≠ metaPath root) (hin : root <+: filePath) :
    p ≠ metaPath filePath := by
  obtain ⟨rest, rfl⟩ := hin
  by_cases hrest : rest = []
  · rwa [hrest, List.append_nil]
  · rw [metaPath_append hrest]
    rintro rfl
    rcases hp with heq | hnot
    · exact metaPath_ne_nil (List.append_right_eq_self.mp heq)
    · exact hnot (List.prefix_append _ _)

/-- A directory is made below the root only: what is above it is there. -/
theorem not_created (h : Mounted root disk) (hp : Outside root p) (hin : root <+: filePath) (hstart : p <+: filePath) :
    disk p ≠ none := by
  have habove : p <+: root := by
    rcases List.prefix_or_prefix_of_prefix hstart hin with habove | hbelow
    · exact habove
    · rcases hp with rfl | hnot
      · exact List.prefix_rfl
      · exact absurd hbelow hnot
  rw [h.directory p habove]
  exact Option.some_ne_none _

theorem eq_root_of_outside (hp : Outside root filePath) (hin : root <+: filePath) : filePath = root :=
  hp.resolve_right fun hnot => hnot hin

theorem localUpload_outside (h : Mounted root disk) (hp : Outside root p) (hmeta : p ≠ metaPath root) (body : Bytes)
    (contentType : String) : (localUpload root key disk body contentType).2 p = disk p := by
  rw [localUpload, localPath_eq h]
  by_cases hin : root <+: resolvePath root key.toList
  · rw [if_pos hin]
    generalize resolvePath root key.toList = filePath at hin
    dsimp only
    split
    · rfl
    · next made hmade =>
      have hkept : ∀ q, Outside root q → made q = disk q := by
        intro q hq
        rw [Disk.mkdir_ok hmade]
        exact if_neg fun hnew =>
          not_created h hq hin (hnew.1.trans (List.dropLast_prefix filePath)) hnew.2
      split
      · exact hkept p hp
      · next written hwritten =>
        obtain ⟨rfl, hnode⟩ := Disk.writeFile_ok hwritten
        have hne : p ≠ filePath := by
          rintro rfl
          have hroot := eq_root_of_outside hp hin
          exact hnode (by rw [hkept p hp, hroot, h.directory root List.prefix_rfl])
        split
        · exact (Disk.set_of_ne hne).trans (hkept p hp)
        · next typed htyped =>
          obtain ⟨rfl, -⟩ := Disk.writeFile_ok htyped
          exact (Disk.set_of_ne (ne_metaPath hp hmeta hin)).trans ((Disk.set_of_ne hne).trans (hkept p hp))
  · rw [if_neg hin]

theorem localDelete_outside (h : Mounted root disk) (hp : Outside root p) (hmeta : p ≠ metaPath root) :
    localDelete root key disk p = disk p := by
  rw [localDelete, safeLocalPath, localPath_eq h]
  by_cases hin : root <+: resolvePath root key.toList
  · rw [if_pos hin]
    generalize resolvePath root key.toList = filePath at hin
    show ((disk.tryUnlink filePath).tryUnlink (metaPath filePath)) p = disk p
    rw [Disk.tryUnlink_of_ne fun _ => ne_metaPath hp hmeta hin]
    refine Disk.tryUnlink_of_ne fun hfile heq => ?_
    rw [heq] at hp
    rw [eq_root_of_outside hp hin, h.directory root List.prefix_rfl] at hfile
    exact Bool.false_ne_true hfile
  · rw [if_neg hin]
    rfl

theorem localOp_outside (h : Mounted root disk) (hp : Outside root p) (hmeta : p ≠ metaPath root) (op : FileOp) :
    (localOp root key op disk).2 p = disk p := by
  cases op with
  | uploadFile body contentType =>
    have hupload : (localUpload root key disk body contentType).2 p = disk p :=
      localUpload_outside h hp hmeta body contentType
    simp only [localOp]
    split <;> next heq => rw [heq] at hupload; exact hupload
  | getFile =>
    simp only [localOp]
    split <;> rfl
  | getFileBuffer =>
    simp only [localOp]
    split <;> rfl
  | deleteFileFromStorage => exact localDelete_outside h hp hmeta

theorem Mounted.step (h : Mounted root disk) (key : String) (op : FileOp) :
    Mounted root (localOp root key op disk).2 where
  ne_nil := h.ne_nil
  proper := h.proper
  directory p hp := by
    have hmeta : p ≠ metaPath root := by
      rintro rfl
      have hlength : (metaPath root).length = root.length := by
        rw [metaPath, List.length_append, List.length_dropLast, List.length_singleton]
        have := List.length_pos_iff.mpr h.ne_nil
        omega
      have heq := hp.eq_of_length hlength
      have hlast := congrArg List.getLast? heq
      obtain ⟨init, last, hroot⟩ := (List.eq_nil_or_concat root).resolve_left h.ne_nil
      rw [hroot] at hlast
      simp [metaPath] at hlast
    rw [localOp_outside h (outside_of_above hp) hmeta]
    exact h.directory p hp

/-- What a driver answers for a key that leads out of its root. -/
def refusal (key : String) : FileOp → Answer
  | .uploadFile _ _ => .failed (.invalidKey key)
  | .getFile => .file none
  | .getFileBuffer => .buffer none
  | .deleteFileFromStorage => .done

theorem localOp_refused (h : Mounted root disk) (hout : ¬root <+: resolvePath root key.toList) (op : FileOp) :
    localOp root key op disk = (refusal key op, disk) := by
  have hkey : localPath root key = .error (.invalidKey key) := by rw [localPath_eq h, if_neg hout]
  have hsafe : safeLocalPath root key = none := by rw [safeLocalPath, hkey]; rfl
  cases op with
  | uploadFile body contentType => simp [localOp, localUpload, hkey, refusal]
  | getFile => simp [localOp, localGetFile, hsafe, refusal]
  | getFileBuffer => simp [localOp, localGetFileBuffer, hsafe, refusal]
  | deleteFileFromStorage => simp [localOp, localDelete, hsafe, refusal]

/-- A disk with the root on it and nothing else. -/
def freshDisk (root : List Segment) : Disk := fun p => if p <+: root then some .directory else none

theorem mounted_fresh (hne : root ≠ []) (hproper : ∀ s ∈ root, Segment.Proper s) : Mounted root (freshDisk root) where
  ne_nil := hne
  proper := hproper
  directory _ hp := if_pos hp

/-- What a run leaves outside the root, and that the root stays. -/
theorem runOps_outside (h : Mounted root disk) (ops : List (String × FileOp)) :
    Mounted root (runOps (localOp root) ops disk).2 ∧
      ∀ p, Outside root p → p ≠ metaPath root → (runOps (localOp root) ops disk).2 p = disk p := by
  induction ops generalizing disk with
  | nil => exact ⟨h, fun p _ _ => rfl⟩
  | cons first ops ih =>
    obtain ⟨hmounted, hkept⟩ := ih (h.step first.1 first.2)
    exact ⟨hmounted, fun p hp hmeta => (hkept p hp hmeta).trans (localOp_outside h hp hmeta first.2)⟩

/-- **The local driver stays below its root.** Whatever the keys, and in whatever order the operations come, the
disk outside the root is as it was: the one file that can go is `.meta` beside the root, for a key that names the
root itself. After any run, a key that leads out of the root finds nothing and does nothing. -/
theorem local_files_contained (h : Mounted root disk) (ops : List (String × FileOp)) :
    (∀ p, Outside root p → p ≠ metaPath root → (runOps (localOp root) ops disk).2 p = disk p) ∧
      ∀ key op, ¬root <+: resolvePath root key.toList →
        localOp root key op (runOps (localOp root) ops disk).2
          = (refusal key op, (runOps (localOp root) ops disk).2) :=
  ⟨(runOps_outside h ops).2, fun _ op hout => localOp_refused (runOps_outside h ops).1 hout op⟩

end Contained

/-- `/srv/uploads`. -/
def uploads : List Segment := ["srv".toList, "uploads".toList]

theorem uploads_proper : ∀ s ∈ uploads, Segment.Proper s := by
  intro s hs
  rcases List.mem_cons.mp hs with rfl | hs
  · exact ⟨by decide, by decide, by decide, by decide⟩
  · rw [List.mem_singleton.mp hs]
    exact ⟨by decide, by decide, by decide, by decide⟩

theorem local_files_contained_uploads :
    (∀ p, Outside uploads p → p ≠ metaPath uploads →
        (runOps (localOp uploads) [("../uploads-old/1.pdf", .deleteFileFromStorage)] (freshDisk uploads)).2 p
          = freshDisk uploads p) ∧
      ∀ key op, ¬uploads <+: resolvePath uploads key.toList →
        localOp uploads key op
            (runOps (localOp uploads) [("../uploads-old/1.pdf", .deleteFileFromStorage)] (freshDisk uploads)).2
          = (refusal key op,
            (runOps (localOp uploads) [("../uploads-old/1.pdf", .deleteFileFromStorage)] (freshDisk uploads)).2) :=
  local_files_contained (mounted_fresh (by decide) uploads_proper) _

/-- A sibling whose name goes on from the root's is not in it; two dots that come back are. -/
example : localPath uploads "../uploads-old/1.pdf" = .error (.invalidKey "../uploads-old/1.pdf") ∧
    localPath uploads "1/board/../board/a.pdf" =
      .ok (uploads ++ ["1".toList, "board".toList, "a.pdf".toList]) := by
  decide +kernel

/-! ## The keys of the application -/

/-- What `buildStorageKey` is given. -/
structure StorageKey where
  congregationId : Nat
  feature : Segment
  filename : Segment
  feature_proper : feature.Proper
  filename_proper : filename.Proper
  not_meta : ¬".meta".toList <:+ filename

namespace StorageKey

variable (k k' : StorageKey) (root : List Segment)

def text : String := Board.buildStorageKey k.congregationId (String.ofList k.feature) (String.ofList k.filename)

def segments : List Segment := [(toString k.congregationId).toList, k.feature, k.filename]

def path : List Segment := root ++ k.segments

def metaFile : List Segment := root ++ [(toString k.congregationId).toList, k.feature, k.filename ++ ".meta".toList]

theorem toList_text : k.text.toList = ['/'].intercalate k.segments := by
  simp [text, segments, Board.buildStorageKey, List.intercalate_cons_cons]

theorem segments_proper : ∀ s ∈ k.segments, Segment.Proper s := by
  intro s hs
  have hdigits : (toString k.congregationId).toList = Nat.toDigits 10 k.congregationId := by
    simp [Nat.toString_eq_repr]
  rcases List.mem_cons.mp hs with rfl | hs
  · have hdigit : ∀ c ∈ (toString k.congregationId).toList, c.isDigit = true := by
      intro c hc
      rw [hdigits] at hc
      exact Nat.isDigit_of_mem_toDigits (by decide) (by decide) hc
    refine ⟨?_, fun h => absurd (hdigit _ h) (by decide), fun h => ?_, fun h => ?_⟩
    · rw [hdigits]
      exact Nat.toDigits_ne_nil
    · exact absurd (hdigit '.' (h ▸ List.mem_cons_self)) (by decide)
    · exact absurd (hdigit '.' (h ▸ List.mem_cons_self)) (by decide)
  · rcases List.mem_cons.mp hs with rfl | hs
    · exact k.feature_proper
    · rw [List.mem_singleton.mp hs]
      exact k.filename_proper

theorem resolvePath_text : resolvePath root k.text.toList = k.path root := by
  rw [toList_text]
  exact resolvePath_intercalate k.segments_proper (List.cons_ne_nil _ _)

theorem metaPath_path : metaPath (k.path root) = k.metaFile root := by
  have hne : k.segments ≠ [] := List.cons_ne_nil _ _
  rw [path, metaPath_append hne]
  rfl

theorem path_inj {k k' : StorageKey} (h : k.path root = k'.path root) : k.text = k'.text := by
  apply String.toList_inj.mp
  rw [toList_text, toList_text, List.append_cancel_left h]

theorem metaFile_inj {k k' : StorageKey} (h : k.metaFile root = k'.metaFile root) : k.path root = k'.path root := by
  have hsegments := List.append_cancel_left h
  simp only [List.cons.injEq, List.append_cancel_right_eq, and_true] at hsegments
  rw [path, path, segments, segments, hsegments.1, hsegments.2.1, hsegments.2.2]

theorem path_ne_metaFile : k.path root ≠ k'.metaFile root := by
  intro h
  have hsegments := List.append_cancel_left h
  simp only [segments, List.cons.injEq, and_true] at hsegments
  exact k.not_meta ⟨k'.filename, hsegments.2.2.symm⟩

/-- The directory of the feature. -/
def parent : List Segment := root ++ [(toString k.congregationId).toList, k.feature]

theorem path_eq : k.path root = k.parent root ++ [k.filename] := by
  rw [parent, List.append_assoc]
  rfl

theorem metaFile_eq : k.metaFile root = k.parent root ++ [k.filename ++ ".meta".toList] := by
  rw [parent, List.append_assoc]
  rfl

theorem length_path : (k.path root).length = root.length + 3 := List.length_append

theorem length_metaFile : (k.metaFile root).length = root.length + 3 := List.length_append

theorem ne_of_prefix_parent {q : List Segment} (h : q <+: k.parent root) :
    q ≠ k'.path root ∧ q ≠ k'.metaFile root := by
  have hle : q.length ≤ root.length + 2 := h.length_le.trans (Nat.le_of_eq List.length_append)
  have hpath := k'.length_path root
  have hmeta := k'.length_metaFile root
  constructor
  · rintro rfl
    omega
  · rintro rfl
    omega

end StorageKey

/-! ## The driver and the bucket -/

/-- The disk holds what the bucket holds, under the keys of the application. -/
structure Holds (root : List Segment) (disk : Disk) (bucket : Bucket) : Prop where
  mounted : Mounted root disk
  open_ : ∀ (k : StorageKey) (q : List Segment), q <+: k.parent root → isFile (disk q) = false
  stored : ∀ k : StorageKey, disk (k.path root) = (bucket k.text).map fun f => .file f.1
  typed : ∀ (k : StorageKey) f, bucket k.text = some f → disk (k.metaFile root) = some (.file (encode f.2.toList))
  typed_file : ∀ k : StorageKey, disk (k.metaFile root) ≠ some .directory

section Steps

variable {root : List Segment} {disk : Disk} {bucket : Bucket} {k : StorageKey}

theorem Holds.localPath_text (h : Holds root disk bucket) (k : StorageKey) :
    localPath root k.text = .ok (k.path root) := by
  rw [localPath_eq h.mounted, k.resolvePath_text]
  exact if_pos ⟨k.segments, rfl⟩

theorem Holds.safeLocalPath_text (h : Holds root disk bucket) (k : StorageKey) :
    safeLocalPath root k.text = some (k.path root) := by
  rw [safeLocalPath, h.localPath_text]
  rfl

theorem blocked_concat {path : List Segment} {part : Segment} (h : ∀ q, q <+: path → isFile (disk q) = false) :
    disk.blocked (path ++ [part]) = false := by
  refine Disk.blocked_eq_false.mpr fun q hq hne => h q ?_
  exact (List.prefix_concat_iff.mp hq).resolve_left hne

theorem Holds.stat_path (h : Holds root disk bucket) (k : StorageKey) : disk.stat (k.path root) =
    match bucket k.text with
    | none => .error .enoent
    | some f => .ok (.file f.1) := by
  have hblocked : disk.blocked (k.path root) = false := by
    rw [k.path_eq]
    exact blocked_concat (h.open_ k)
  rw [Disk.stat, hblocked, if_neg Bool.false_ne_true, h.stored]
  cases bucket k.text <;> rfl

theorem Holds.readFile_path (h : Holds root disk bucket) (k : StorageKey) : disk.readFile (k.path root) =
    match bucket k.text with
    | none => .error .enoent
    | some f => .ok f.1 := by
  rw [Disk.readFile, h.stat_path]
  cases bucket k.text <;> rfl

theorem Holds.readFile_metaFile (h : Holds root disk bucket) {f : Bytes × String} (hf : bucket k.text = some f) :
    disk.readFile (k.metaFile root) = .ok (encode f.2.toList) := by
  have hblocked : disk.blocked (k.metaFile root) = false := by
    rw [k.metaFile_eq]
    exact blocked_concat (h.open_ k)
  rw [Disk.readFile, Disk.stat, hblocked, if_neg Bool.false_ne_true, h.typed k f hf]

theorem Holds.localGetFile_text (h : Holds root disk bucket) (k : StorageKey) :
    localGetFile root k.text disk = .ok (bucket k.text) := by
  rw [localGetFile, h.safeLocalPath_text]
  simp only [h.stat_path, h.readFile_path, k.metaPath_path]
  cases hf : bucket k.text with
  | none => rfl
  | some f =>
    simp only [h.readFile_metaFile hf, decode_encode, String.ofList_toList]

theorem Holds.localGetFileBuffer_text (h : Holds root disk bucket) (k : StorageKey) :
    localGetFileBuffer root k.text disk = .ok ((bucket k.text).map (·.1)) := by
  rw [localGetFileBuffer, h.safeLocalPath_text]
  simp only [h.readFile_path]
  cases bucket k.text <;> rfl

/-- A file written where nothing stops it. -/
theorem writeFile_concat {path : List Segment} {part : Segment} {bytes : Bytes}
    (hopen : ∀ q, q <+: path → isFile (disk q) = false) (hdir : disk path = some .directory)
    (hnode : disk (path ++ [part]) ≠ some .directory) :
    disk.writeFile (path ++ [part]) bytes = .ok (disk.set (path ++ [part]) (some (.file bytes))) := by
  have hblocked : disk.blocked path = false := Disk.blocked_eq_false.mpr fun q hq _ => hopen q hq
  simp only [Disk.writeFile, List.dropLast_concat, Disk.stat, hblocked, hdir, if_neg Bool.false_ne_true, if_neg hnode]

/-- What an upload leaves at each path. -/
theorem Holds.localUpload_text (h : Holds root disk bucket) (k : StorageKey) (body : Bytes) (contentType : String) :
    ∃ made : Disk, (∀ q, made q = disk q ∨ q <+: k.parent root ∧ made q = some .directory ∧ disk q = none) ∧
      localUpload root k.text disk body contentType =
        (.ok (), (made.set (k.path root) (some (.file body))).set (k.metaFile root)
          (some (.file (encode contentType.toList)))) := by
  let made : Disk := fun p => if p <+: k.parent root ∧ disk p = none then some .directory else disk p
  have hmade : ∀ q, made q = disk q ∨ q <+: k.parent root ∧ made q = some .directory ∧ disk q = none := by
    intro q
    by_cases hq : q <+: k.parent root ∧ disk q = none
    · exact .inr ⟨hq.1, if_pos hq, hq.2⟩
    · exact .inl (if_neg hq)
  have hopen : ∀ q, q <+: k.parent root → isFile (made q) = false := by
    intro q hq
    rcases hmade q with hsame | ⟨-, hdir, -⟩
    · rw [hsame]
      exact h.open_ k q hq
    · rw [hdir]
      rfl
  have hparent : made (k.parent root) = some .directory := by
    rcases hmade (k.parent root) with hsame | ⟨-, hdir, -⟩
    · have hfile := h.open_ k _ List.prefix_rfl
      cases hnode : disk (k.parent root) with
      | none => exact if_pos ⟨List.prefix_rfl, hnode⟩
      | some node =>
        rw [hsame, hnode]
        rw [hnode] at hfile
        cases node with
        | file bytes => exact absurd hfile.symm Bool.false_ne_true
        | directory => rfl
    · exact hdir
  have hmkdir : disk.mkdir (k.parent root) = .ok made := by
    have hblocked : disk.blocked (k.parent root) = false := Disk.blocked_eq_false.mpr fun q hq _ => h.open_ k q hq
    rw [Disk.mkdir, hblocked, if_neg Bool.false_ne_true, h.open_ k _ List.prefix_rfl, if_neg Bool.false_ne_true]
  have hkept : ∀ {q : List Segment}, ¬q <+: k.parent root → made q = disk q := fun hq =>
    (hmade _).resolve_right fun hnew => hq hnew.1
  have hpath : made (k.path root) ≠ some .directory := by
    rw [hkept fun hq => (k.ne_of_prefix_parent k root hq).1 rfl, h.stored]
    cases bucket k.text <;> simp
  have hmeta : made (k.metaFile root) ≠ some .directory := by
    rw [hkept fun hq => (k.ne_of_prefix_parent k root hq).2 rfl]
    exact h.typed_file k
  refine ⟨made, hmade, ?_⟩
  have hfirst : made.writeFile (k.path root) body = .ok (made.set (k.path root) (some (.file body))) := by
    rw [k.path_eq] at hpath ⊢
    exact writeFile_concat hopen hparent hpath
  have hsecond : (made.set (k.path root) (some (.file body))).writeFile (k.metaFile root) (encode contentType.toList) =
      .ok ((made.set (k.path root) (some (.file body))).set (k.metaFile root)
        (some (.file (encode contentType.toList)))) := by
    have hset : ∀ q, q ≠ k.path root → (made.set (k.path root) (some (.file body))) q = made q :=
      fun q hq => Disk.set_of_ne hq
    have hne := k.path_ne_metaFile k root
    rw [k.metaFile_eq] at hmeta hne ⊢
    refine writeFile_concat (fun q hq => ?_) ?_ ?_
    · rw [hset q (k.ne_of_prefix_parent k root hq).1]
      exact hopen q hq
    · rw [hset _ (k.ne_of_prefix_parent k root List.prefix_rfl).1]
      exact hparent
    · rw [hset _ hne.symm]
      exact hmeta
  have hdropLast : (k.path root).dropLast = k.parent root := by rw [k.path_eq, List.dropLast_concat]
  simp only [localUpload, h.localPath_text, hdropLast, hmkdir, hfirst, k.metaPath_path, hsecond]

/-- Keys with one path have one text, and the other way round. -/
theorem path_eq_iff {k k' : StorageKey} : k.path root = k'.path root ↔ k.text = k'.text := by
  constructor
  · exact StorageKey.path_inj root
  · intro h
    rw [← k.resolvePath_text, h, k'.resolvePath_text]

/-- The two files of a key are replaced, or go, and directories above them are made. -/
theorem Holds.replace (h : Holds root disk bucket) (k : StorageKey) {found : Option (Bytes × String)} {disk' : Disk}
    (hother : ∀ q, q ≠ k.path root → q ≠ k.metaFile root →
      disk' q = disk q ∨ q <+: k.parent root ∧ disk' q = some .directory ∧ disk q = none)
    (hpath : disk' (k.path root) = found.map fun f => .file f.1)
    (hmeta : ∀ f, found = some f → disk' (k.metaFile root) = some (.file (encode f.2.toList)))
    (hnode : disk' (k.metaFile root) ≠ some .directory) :
    Holds root disk' fun text => if text = k.text then found else bucket text := by
  have hkept : ∀ q, q ≠ k.path root → q ≠ k.metaFile root → ¬q <+: k.parent root → disk' q = disk q :=
    fun q hq hq' hnot => (hother q hq hq').resolve_right fun hnew => hnot hnew.1
  constructor
  case mounted =>
    refine ⟨h.mounted.ne_nil, h.mounted.proper, fun p hp => ?_⟩
    obtain ⟨hne, hne'⟩ := k.ne_of_prefix_parent k root (hp.trans (List.prefix_append _ _))
    rcases hother p hne hne' with hsame | ⟨-, hdir, -⟩
    · exact hsame.trans (h.mounted.directory p hp)
    · exact hdir
  case open_ =>
    intro k' q hq
    obtain ⟨hne, hne'⟩ := k'.ne_of_prefix_parent k root hq
    rcases hother q hne hne' with hsame | ⟨-, hdir, -⟩
    · rw [hsame]
      exact h.open_ k' q hq
    · rw [hdir]
      rfl
  case stored =>
    intro k'
    by_cases hk : k'.text = k.text
    · rw [if_pos hk, path_eq_iff.mpr hk, hpath]
    · rw [if_neg hk, hkept _ (fun heq => hk (path_eq_iff.mp heq)) (k'.path_ne_metaFile k root)
        fun hq => (k.ne_of_prefix_parent k' root hq).1 rfl]
      exact h.stored k'
  case typed =>
    intro k' f hf
    by_cases hk : k'.text = k.text
    · rw [if_pos hk] at hf
      rw [← k'.metaPath_path, path_eq_iff.mpr hk, k.metaPath_path]
      exact hmeta f hf
    · rw [if_neg hk] at hf
      rw [hkept _ (k.path_ne_metaFile k' root).symm
        (fun heq => hk (path_eq_iff.mp (StorageKey.metaFile_inj root heq)))
        fun hq => (k.ne_of_prefix_parent k' root hq).2 rfl]
      exact h.typed k' f hf
  case typed_file =>
    intro k'
    by_cases heq : k'.metaFile root = k.metaFile root
    · rwa [heq]
    · rw [hkept _ (k.path_ne_metaFile k' root).symm heq fun hq => (k.ne_of_prefix_parent k' root hq).2 rfl]
      exact h.typed_file k'

theorem Holds.upload (h : Holds root disk bucket) (k : StorageKey) (body : Bytes) (contentType : String) :
    (localUpload root k.text disk body contentType).1 = .ok () ∧
      Holds root (localUpload root k.text disk body contentType).2 (s3Upload bucket k.text body contentType) := by
  obtain ⟨made, hmade, hupload⟩ := h.localUpload_text k body contentType
  rw [hupload]
  refine ⟨rfl, h.replace k (fun q hpath hmeta => ?_) ?_ (fun f hf => ?_) ?_⟩
  · dsimp only
    rw [Disk.set_of_ne hmeta, Disk.set_of_ne hpath]
    exact hmade q
  · exact (Disk.set_of_ne (k.path_ne_metaFile k root)).trans (if_pos rfl)
  · obtain rfl := Option.some.inj hf
    exact if_pos rfl
  · show (if k.metaFile root = k.metaFile root then _ else _) ≠ _
    rw [if_pos rfl]
    simp

theorem Holds.delete (h : Holds root disk bucket) (k : StorageKey) :
    Holds root (localDelete root k.text disk) (s3Delete bucket k.text) := by
  have hdelete : localDelete root k.text disk = (disk.tryUnlink (k.path root)).tryUnlink (k.metaFile root) := by
    rw [localDelete, h.safeLocalPath_text]
    simp only [k.metaPath_path]
  rw [hdelete]
  refine h.replace k (fun q hpath hmeta => .inl ?_) ?_ (fun f hf => absurd hf (by simp)) ?_
  · rw [Disk.tryUnlink_of_ne fun _ => hmeta, Disk.tryUnlink_of_ne fun _ => hpath]
  · rw [Disk.tryUnlink_of_ne fun _ => k.path_ne_metaFile k root]
    cases hf : bucket k.text with
    | none =>
      have hunlink : disk.unlink (k.path root) = .error .enoent := by simp only [Disk.unlink, h.stat_path, hf]
      simp only [Disk.tryUnlink, hunlink, h.stored, hf, Option.map_none]
    | some f =>
      have hunlink : disk.unlink (k.path root) = .ok (disk.set (k.path root) none) := by
        simp only [Disk.unlink, h.stat_path, hf]
      simp only [Disk.tryUnlink, hunlink]
      exact if_pos rfl
  · rcases Disk.tryUnlink_cases (k.metaFile root) with hsame | hgone
    · rw [hsame, Disk.tryUnlink_of_ne fun _ => (k.path_ne_metaFile k root).symm]
      exact h.typed_file k
    · rw [hgone]
      exact (Option.some_ne_none _).symm

/-- One operation on a key of the application: one answer, and the disk still holds what the bucket holds. -/
theorem Holds.step (h : Holds root disk bucket) (k : StorageKey) (op : FileOp) :
    (localOp root k.text op disk).1 = (s3Op k.text op bucket).1 ∧
      Holds root (localOp root k.text op disk).2 (s3Op k.text op bucket).2 := by
  cases op with
  | uploadFile body contentType =>
    obtain ⟨hok, hholds⟩ := h.upload k body contentType
    simp only [localOp, s3Op]
    split
    · next heq => exact ⟨rfl, by rwa [heq] at hholds⟩
    · next heq =>
      rw [heq] at hok
      exact absurd hok (by simp)
  | getFile =>
    simp only [localOp, s3Op, h.localGetFile_text]
    exact ⟨trivial, h⟩
  | getFileBuffer =>
    simp only [localOp, s3Op, h.localGetFileBuffer_text]
    exact ⟨trivial, h⟩
  | deleteFileFromStorage => exact ⟨rfl, h.delete k⟩

end Steps

theorem holds_fresh {root : List Segment} (hne : root ≠ []) (hproper : ∀ s ∈ root, Segment.Proper s) :
    Holds root (freshDisk root) fun _ => none := by
  have hnone : ∀ {p : List Segment}, root.length < p.length → freshDisk root p = none := fun hlt =>
    if_neg fun hp => absurd hp.length_le (Nat.not_le.mpr hlt)
  have hpath : ∀ k : StorageKey, root.length < (k.path root).length := fun k => by
    rw [k.length_path]
    omega
  have hmeta : ∀ k : StorageKey, root.length < (k.metaFile root).length := fun k => by
    rw [k.length_metaFile]
    omega
  refine ⟨mounted_fresh hne hproper, fun k q _ => ?_, fun k => hnone (hpath k), fun k f hf => absurd hf (by simp),
    fun k => by rw [hnone (hmeta k)]; simp⟩
  unfold freshDisk
  split <;> rfl

/-- The file of a document of congregation 7. -/
def documentKey : StorageKey where
  congregationId := 7
  feature := "board".toList
  filename := "a.pdf".toList
  feature_proper := ⟨by decide, by decide, by decide, by decide⟩
  filename_proper := ⟨by decide, by decide, by decide, by decide⟩
  not_meta := by decide

end Unitae.Storage
