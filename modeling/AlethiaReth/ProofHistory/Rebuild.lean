import AlethiaReth.Lib.Run
import AlethiaReth.ProofHistory.Reconcile

/-!
The directory of the proof-history store, and the rebuild that one start asks of the next.  Every
file operation may fail, which is also what a crash at that point leaves.

* `open_usable`: what a start hands out, and what it leaves alone.
* `rebuild_not_lost`: a store that was marked is not handed out again, whatever fails on the way.
-/

namespace AlethiaReth.ProofHistory

open Run

/-! ### The directory -/

variable (undeletable : String → Bool)

/-- How far the copy of the current state has come. -/
inductive InitialStateStatus where
  | notStarted
  | inProgress
  | completed
  deriving DecidableEq, Repr

/-- What the database file holds, as the library answers it. -/
structure StoreData where
  holdsOnlyLegacyV1Data : Bool
  status : InitialStateStatus
  window : Option ProofWindow
  deriving DecidableEq, Repr

/-- A store that was just created. -/
def StoreData.empty : StoreData := ⟨false, .notStarted, none⟩

/-- What is at a name. -/
inductive DirEntry where
  | store (data : StoreData)
  /-- A file that the store keeps for itself. -/
  | internal
  | file (content : Bytes)

/-- The files of a directory by name. -/
abbrev Directory := String → Option DirEntry

/-- The file that asks the next start for a rebuild. -/
def proofHistoryRebuildMarkerFile : String := "taiko-proof-history-rebuild"

/-- The files of a store, in the order of their deletion. -/
def proofHistoryStoreFiles : List String :=
  ["mdbx.dat", "mdbx.lck", "database.version", "taiko-historical-init-target"] ++
    [proofHistoryRebuildMarkerFile]

/-- The files that come with a new store. -/
def mdbxFiles : List String := ["mdbx.dat", "mdbx.lck", "database.version"]

/-- Why a start fails, or a request for a rebuild. -/
inductive StorageInitError where
  | openFailed
  | inspectionFailed
  | deletionFailed (name : String)
  | markFailed
  deriving DecidableEq, Repr

/-- The marker is there. -/
def Directory.Marked (dir : Directory) : Prop := (dir proofHistoryRebuildMarkerFile).isSome

/-- There is nothing in the store. -/
def Directory.Blank (dir : Directory) : Prop :=
  dir "mdbx.dat" = none ∨ dir "mdbx.dat" = some (.store .empty)

/-- What opening does to the directory: files of the store are created where they are missing, and
the database is handed out as it is then. -/
structure Opened (dir dir' : Directory) (result : Except StorageInitError StoreData) : Prop where
  frame : ∀ name ∉ mdbxFiles, dir' name = dir name
  kept : ∀ name, (dir name).isSome → dir' name = dir name
  created : dir "mdbx.dat" = none → dir'.Blank
  handedOut : ∀ data, result = .ok data → dir' "mdbx.dat" = some (.store data)

/-- A call of `open_mdbx`, with all that is known of it; it may fail at any point. -/
structure OpenMdbx where
  run : Directory → Directory × Except StorageInitError StoreData
  opened : ∀ dir, Opened dir (run dir).1 (run dir).2

/-- The call succeeds where the database is missing or can be read. -/
def OpenMdbx.Succeeds (openMdbx : OpenMdbx) : Prop :=
  ∀ dir, (dir "mdbx.dat" = none ∨ ∃ data, dir "mdbx.dat" = some (.store data)) →
    ∃ data, (openMdbx.run dir).2 = .ok data

/-- Deletes a file, unless it cannot be deleted. -/
def removeFile (name : String) (dir : Directory) :
    Except StorageInitError Directory :=
  if undeletable name then .error (.deletionFailed name) else .ok (Function.update dir name none)

/-- The files that come before the first one that cannot be deleted are gone. -/
def removeProofHistoryStoreFiles (dir : Directory) :
    Directory × Except StorageInitError Unit :=
  commits (proofHistoryStoreFiles.map (removeFile undeletable)) dir

/-- There is no window yet. -/
def proofHistoryStorageNeedsInitialization (data : StoreData) : Bool := data.window.isNone

/-- Why a store must be discarded, if it must; the inspection may fail. -/
def rebuildReason (fails : Bool) (dir : Directory) (data : StoreData) :
    Except StorageInitError (Option String) :=
  if fails then .error .inspectionFailed
  else if (dir proofHistoryRebuildMarkerFile).isSome then
    .ok (some "a previous start found its earliest block no longer canonical")
  else if data.holdsOnlyLegacyV1Data then
    .ok (some "it holds only legacy v1 proof-history data")
  else if proofHistoryStorageNeedsInitialization data ∧ data.status ≠ .notStarted then
    .ok (some "it holds an incomplete current-state initialization")
  else .ok none

/-- How the operations of a start go. -/
structure OpenFaults where
  firstOpen : OpenMdbx
  inspection : Bool
  undeletable : String → Bool
  secondOpen : OpenMdbx

/-- Opens the store, and opens a new one in its place where it must be discarded. -/
def openProofHistoryStorage (faults : OpenFaults) (dir : Directory) :
    Directory × Except StorageInitError StoreData :=
  match faults.firstOpen.run dir with
  | (dir, .error e) => (dir, .error e)
  | (dir, .ok data) =>
    match rebuildReason faults.inspection dir data with
    | .error e => (dir, .error e)
    | .ok none => (dir, .ok data)
    | .ok (some _) =>
      match removeProofHistoryStoreFiles faults.undeletable dir with
      | (dir, .error e) => (dir, .error e)
      | (dir, .ok ()) => faults.secondOpen.run dir

/-- Writes the marker. -/
def requestProofHistoryRebuild (writable : Bool) (dir : Directory) :
    Directory × Except StorageInitError Unit :=
  if writable then
    (Function.update dir proofHistoryRebuildMarkerFile (some (.file [])), .ok ())
  else (dir, .error .markFailed)

/-! ### What the operations leave alone -/

section Directory

variable {dir : Directory} {name : String} {dir' : Directory}
  {result : Except StorageInitError StoreData} {undeletable} {faults : OpenFaults}
  {removal : Except StorageInitError Unit}

/-- The database is there afterwards as it was handed out, and either it was so before or it is
new. -/
lemma Opened.data {dir' : Directory} {data : StoreData} (h : Opened dir dir' (.ok data)) :
    dir "mdbx.dat" = some (.store data) ∨ dir "mdbx.dat" = none ∧ data = .empty := by
  have hdata := h.handedOut data rfl
  cases hbefore : dir "mdbx.dat" with
  | some entry =>
    rw [h.kept "mdbx.dat" (by rw [hbefore]; rfl), hbefore] at hdata
    exact .inl hdata
  | none =>
    refine .inr ⟨rfl, ?_⟩
    rcases h.created hbefore with hnone | hempty
    · rw [hnone] at hdata
      cases hdata
    · rw [hempty] at hdata
      cases hdata
      rfl

lemma Opened.blank (h : Opened dir dir' result) (hblank : dir.Blank) : dir'.Blank := by
  rcases hblank with hnone | hempty
  · exact h.created hnone
  · exact .inr ((h.kept _ (by rw [hempty]; rfl)).trans hempty)

lemma marker_not_mem_mdbxFiles : proofHistoryRebuildMarkerFile ∉ mdbxFiles := by
  decide

lemma not_mem_mdbxFiles (h : name ∉ proofHistoryStoreFiles) : name ∉ mdbxFiles :=
  fun hmem => h ((show mdbxFiles ⊆ proofHistoryStoreFiles by decide) hmem)

/-! ### Deletion -/

lemma removeFile_of_undeletable (h : undeletable name) :
    removeFile undeletable name dir = .error (.deletionFailed name) := if_pos h

lemma removeFile_of_deletable (h : ¬undeletable name) :
    removeFile undeletable name dir = .ok (Function.update dir name none) := if_neg h

/-- Deletions leave a file as it is or delete it. -/
lemma commits_removeFile_cases (undeletable : String → Bool) (names : List String)
    (dir : Directory) (name : String) :
    (commits (names.map (removeFile undeletable)) dir).1 name = dir name ∨
      name ∈ names ∧ (commits (names.map (removeFile undeletable)) dir).1 name = none := by
  refine commits_invariant
    (I := fun dir' : Directory => dir' name = dir name ∨ name ∈ names ∧ dir' name = none)
    ?_ (.inl rfl)
  intro write hwrite before after hbefore hafter
  obtain ⟨deleted, hdeleted, rfl⟩ := List.mem_map.mp hwrite
  rw [removeFile] at hafter
  split at hafter
  · cases hafter
  · cases hafter
    rcases eq_or_ne name deleted with rfl | hne
    · exact .inr ⟨hdeleted, Function.update_self _ _ _⟩
    · rwa [Function.update_of_ne hne]

/-- The last file goes only after all before it are gone, and all are gone at the end. -/
lemma commits_removeFile_last (undeletable : String → Bool) {names : List String} {last : String}
    (hlast : last ∉ names) {result : Except StorageInitError Unit}
    (h : commits ((names ++ [last]).map (removeFile undeletable)) dir = (dir', result)) :
    (result ≠ .ok () ∧ dir' last = dir last) ∨
      (∀ name ∈ names, dir' name = none) ∧ (result = .ok () → dir' last = none) := by
  induction names generalizing dir with
  | nil =>
    refine .inr ⟨fun name hname => (List.not_mem_nil hname).elim, fun hok => ?_⟩
    rw [List.nil_append, List.map_singleton] at h
    by_cases hundeletable : undeletable last
    · rw [commits_cons_of_error (removeFile_of_undeletable hundeletable)] at h
      cases h
      cases hok
    · rw [commits_cons_of_ok (removeFile_of_deletable hundeletable)] at h
      cases h
      exact Function.update_self _ _ _
  | cons name names ih =>
    rw [List.mem_cons, not_or] at hlast
    rw [List.cons_append, List.map_cons] at h
    by_cases hundeletable : undeletable name
    · rw [commits_cons_of_error (removeFile_of_undeletable hundeletable)] at h
      cases h
      exact .inl ⟨by rintro ⟨⟩, rfl⟩
    · rw [commits_cons_of_ok (removeFile_of_deletable hundeletable)] at h
      rcases ih hlast.2 h with ⟨hfailed, hsame⟩ | ⟨hgone, hok⟩
      · exact .inl ⟨hfailed, hsame.trans (Function.update_of_ne hlast.1 _ _)⟩
      · refine .inr ⟨fun deleted hdeleted => ?_, hok⟩
        rcases List.mem_cons.mp hdeleted with rfl | hdeleted
        · have hcases := commits_removeFile_cases undeletable (names ++ [last])
            (Function.update dir deleted none) deleted
          rw [h, Function.update_self] at hcases
          rcases hcases with hnone | ⟨-, hnone⟩
          · exact hnone
          · exact hnone
        · exact hgone deleted hdeleted

/-! ### Starts -/

/-- A start fails with what its first opening left, hands it out, or deletes the files. -/
lemma openProofHistoryStorage_cases (h : openProofHistoryStorage faults dir = (dir', result)) :
    ∃ first opened, Opened dir first opened ∧
      ((∃ e, result = .error e) ∧ dir' = first ∨
      (∃ data, opened = .ok data ∧ result = .ok data ∧ dir' = first ∧
        rebuildReason false first data = .ok none) ∨
      ∃ deleted removal,
        removeProofHistoryStoreFiles faults.undeletable first = (deleted, removal) ∧
        ((∃ e, result = .error e) ∧ removal ≠ .ok () ∧ dir' = deleted ∨
          removal = .ok () ∧ Opened deleted dir' result)) := by
  refine ⟨_, _, faults.firstOpen.opened dir, ?_⟩
  rw [openProofHistoryStorage] at h
  split at h
  · next first e hfirst =>
    cases h
    exact .inl ⟨⟨e, rfl⟩, by rw [hfirst]⟩
  · next first data hfirst =>
    rw [hfirst]
    split at h
    · next e _ =>
      cases h
      exact .inl ⟨⟨e, rfl⟩, rfl⟩
    · next hreason =>
      cases h
      refine .inr (.inl ⟨data, rfl, rfl, rfl, ?_⟩)
      cases hinspection : faults.inspection with
      | true =>
        rw [rebuildReason, hinspection] at hreason
        cases hreason
      | false => rwa [hinspection] at hreason
    · refine .inr (.inr ?_)
      split at h
      · next deleted e hdeleted =>
        cases h
        exact ⟨_, _, hdeleted, .inl ⟨⟨e, rfl⟩, by rintro ⟨⟩, rfl⟩⟩
      · next deleted hdeleted =>
        refine ⟨_, _, hdeleted, .inr ⟨rfl, ?_⟩⟩
        have hopened := faults.secondOpen.opened deleted
        rwa [h] at hopened

/-- The marker is the last file that a deletion reaches. -/
lemma removal_cases (h : removeProofHistoryStoreFiles undeletable dir = (dir', removal)) :
    (removal ≠ .ok () ∧
      dir' proofHistoryRebuildMarkerFile = dir proofHistoryRebuildMarkerFile) ∨
    dir' "mdbx.dat" = none ∧ (removal = .ok () → dir' proofHistoryRebuildMarkerFile = none) := by
  rcases commits_removeFile_last undeletable (by decide) h with hkept | ⟨hgone, hok⟩
  · exact .inl hkept
  · exact .inr ⟨hgone "mdbx.dat" List.mem_cons_self, hok⟩

lemma removal_same_or_gone (h : removeProofHistoryStoreFiles undeletable dir = (dir', removal))
    (name : String) :
    dir' name = dir name ∨ name ∈ proofHistoryStoreFiles ∧ dir' name = none := by
  have hcases := commits_removeFile_cases undeletable proofHistoryStoreFiles dir name
  rwa [← removeProofHistoryStoreFiles, h] at hcases

/-- What a start does to files that are not the store's. -/
lemma open_frame (h : openProofHistoryStorage faults dir = (dir', result))
    (hname : name ∉ proofHistoryStoreFiles) : dir' name = dir name := by
  obtain ⟨first, opened, hfirst, hcases⟩ := openProofHistoryStorage_cases h
  have hsame := hfirst.frame name (not_mem_mdbxFiles hname)
  rcases hcases with ⟨-, rfl⟩ | ⟨_, -, -, rfl, -⟩ | ⟨deleted, removal, hremoval, hcases⟩
  · exact hsame
  · exact hsame
  · have hdeleted : deleted name = first name := by
      rcases removal_same_or_gone hremoval name with heq | ⟨hmem, -⟩
      · exact heq
      · exact absurd hmem hname
    rcases hcases with ⟨-, -, rfl⟩ | ⟨-, hsecond⟩
    · exact hdeleted.trans hsame
    · exact (hsecond.frame name (not_mem_mdbxFiles hname)).trans (hdeleted.trans hsame)

/-- After a deletion the store is new. -/
lemma Opened.after_removal {undeletable : String → Bool} {first dir' : Directory} {data : StoreData}
    (hremoval : removeProofHistoryStoreFiles undeletable first = (dir, .ok ()))
    (h : Opened dir dir' (.ok data)) :
    data = .empty ∧ dir' proofHistoryRebuildMarkerFile = none := by
  rcases removal_cases hremoval with ⟨hne, -⟩ | ⟨hnone, hmarker⟩
  · exact absurd rfl hne
  · refine ⟨?_, (h.frame _ marker_not_mem_mdbxFiles).trans (hmarker rfl)⟩
    rcases h.data with hsome | ⟨-, hempty⟩
    · rw [hnone] at hsome
      cases hsome
    · exact hempty

lemma rebuildReason_eq_none {data : StoreData} :
    rebuildReason false dir data = .ok none ↔ dir proofHistoryRebuildMarkerFile = none ∧
      data.holdsOnlyLegacyV1Data = false ∧ (data.window = none → data.status = .notStarted) := by
  rw [rebuildReason, if_neg Bool.false_ne_true]
  split_ifs with hmarked hlegacy hincomplete
  · refine iff_of_false (fun h => by cases h) fun h => ?_
    rw [h.1] at hmarked
    cases hmarked
  · refine iff_of_false (fun h => by cases h) fun h => ?_
    rw [hlegacy] at h
    cases h.2.1
  · refine iff_of_false (fun h => by cases h) fun h => hincomplete.2 (h.2.2 ?_)
    exact Option.isNone_iff_eq_none.mp hincomplete.1
  · refine iff_of_true rfl ⟨by simpa using hmarked, by simpa using hlegacy, fun hnone => ?_⟩
    by_contra hstatus
    exact hincomplete ⟨Option.isNone_iff_eq_none.mpr hnone, hstatus⟩

/-- What a start hands out. -/
lemma open_eq_ok {faults : OpenFaults} {dir' : Directory} {data : StoreData}
    (h : openProofHistoryStorage faults dir = (dir', .ok data)) :
    rebuildReason false dir' data = .ok none ∧ dir' "mdbx.dat" = some (.store data) ∧
      (data = .empty ∨
        dir "mdbx.dat" = some (.store data) ∧ rebuildReason false dir data = .ok none) := by
  obtain ⟨first, opened, hfirst, hcases⟩ := openProofHistoryStorage_cases h
  rcases hcases with ⟨⟨e, he⟩, -⟩ | ⟨data', rfl, hdata', rfl, hreason⟩ |
    ⟨deleted, removal, hremoval, ⟨⟨e, he⟩, -⟩ | ⟨rfl, hsecond⟩⟩
  · cases he
  · obtain rfl := Except.ok.inj hdata'
    refine ⟨hreason, hfirst.handedOut data rfl, ?_⟩
    rcases hfirst.data with hsome | ⟨-, hempty⟩
    · refine .inr ⟨hsome, ?_⟩
      rw [rebuildReason_eq_none] at hreason ⊢
      rwa [hfirst.frame _ marker_not_mem_mdbxFiles] at hreason
    · exact .inl hempty
  · cases he
  · obtain ⟨rfl, hmarker⟩ := hsecond.after_removal hremoval
    exact ⟨rebuildReason_eq_none.mpr ⟨hmarker, rfl, fun _ => rfl⟩, hsecond.handedOut _ rfl,
      .inl rfl⟩

lemma removeProofHistoryStoreFiles_eq_ok (h : ∀ name, undeletable name = false) (dir : Directory) :
    ∃ dir', removeProofHistoryStoreFiles undeletable dir = (dir', .ok ()) := by
  rw [removeProofHistoryStoreFiles]
  generalize proofHistoryStoreFiles = names
  induction names generalizing dir with
  | nil => exact ⟨dir, rfl⟩
  | cons name names ih =>
    rw [List.map_cons, commits_cons_of_ok (removeFile_of_deletable (by simp [h name]))]
    exact ih _

/-- Without a fault, a start on a database that can be read hands out a store. -/
lemma exists_open_eq_ok (hfirst : faults.firstOpen.Succeeds) (hsecond : faults.secondOpen.Succeeds)
    (hinspection : faults.inspection = false) (hdeletable : ∀ name, faults.undeletable name = false)
    (hdir : dir "mdbx.dat" = none ∨ ∃ data, dir "mdbx.dat" = some (.store data)) :
    ∃ data, (openProofHistoryStorage faults dir).2 = .ok data := by
  obtain ⟨data, hdata⟩ := hfirst dir hdir
  rw [openProofHistoryStorage]
  split
  · next hrun =>
    rw [hrun] at hdata
    cases hdata
  · next first found _ =>
    split
    · next hreason =>
      rw [rebuildReason, hinspection, if_neg Bool.false_ne_true] at hreason
      split_ifs at hreason
    · exact ⟨found, rfl⟩
    · obtain ⟨deleted, hremoval⟩ := removeProofHistoryStoreFiles_eq_ok hdeletable first
      rw [hremoval]
      rcases removal_cases hremoval with ⟨hne, -⟩ | ⟨hnone, -⟩
      · exact absurd rfl hne
      · exact hsecond deleted (.inl hnone)

/-- A start hands out the store that it found, if that is not marked, not of the removed version
and not initialized by half, or else an empty one; and it leaves all other files alone.  It does
hand out one if nothing fails. -/
theorem open_usable (faults : OpenFaults) (dir : Directory) :
    let out := openProofHistoryStorage faults dir
    (∀ name ∉ proofHistoryStoreFiles, out.1 name = dir name) ∧
    (∀ data, out.2 = .ok data →
      rebuildReason false out.1 data = .ok none ∧ out.1 "mdbx.dat" = some (.store data) ∧
      (data = .empty ∨
        dir "mdbx.dat" = some (.store data) ∧ rebuildReason false dir data = .ok none)) ∧
    (faults.firstOpen.Succeeds → faults.secondOpen.Succeeds → faults.inspection = false →
      (∀ name, faults.undeletable name = false) →
      (dir "mdbx.dat" = none ∨ ∃ data, dir "mdbx.dat" = some (.store data)) →
      ∃ data, out.2 = .ok data) := by
  intro out
  have hout : openProofHistoryStorage faults dir = (out.1, out.2) := rfl
  refine ⟨fun name hname => open_frame hout hname, fun data hdata => ?_, exists_open_eq_ok⟩
  rw [hdata] at hout
  exact open_eq_ok hout

/-! ### Whole histories -/

/-- A rebuild is owed: the marker is there, or the store is gone already. -/
def Directory.Owed (dir : Directory) : Prop := dir.Marked ∨ dir.Blank

/-- Failing starts owe what they owed, and one that succeeds pays. -/
lemma open_owed (h : openProofHistoryStorage faults dir = (dir', result)) (howed : dir.Owed) :
    dir'.Owed ∧ ∀ data, result = .ok data → data = .empty := by
  obtain ⟨first, opened, hfirst, hcases⟩ := openProofHistoryStorage_cases h
  have hmarker := hfirst.frame _ marker_not_mem_mdbxFiles
  have hfirstOwed : first.Owed := by
    rcases howed with hmarked | hblank
    · refine .inl ?_
      rw [Directory.Marked, hmarker]
      exact hmarked
    · exact .inr (hfirst.blank hblank)
  -- the first opening failed or was kept, or the files were removed
  rcases hcases with ⟨⟨e, rfl⟩, rfl⟩ | ⟨data, rfl, rfl, rfl, hreason⟩ |
    ⟨deleted, removal, hremoval, ⟨⟨e, rfl⟩, -, rfl⟩ | ⟨rfl, hsecond⟩⟩
  · exact ⟨hfirstOwed, fun _ h => by cases h⟩
  · refine ⟨hfirstOwed, fun data' hdata' => ?_⟩
    obtain rfl := Except.ok.inj hdata'
    rcases hfirstOwed with hmarked | hblank
    · rw [Directory.Marked, (rebuildReason_eq_none.mp hreason).1] at hmarked
      cases hmarked
    · have hsome := hfirst.handedOut data rfl
      rcases hblank with hnone | hempty
      · rw [hnone] at hsome
        cases hsome
      · rw [hempty] at hsome
        cases hsome
        rfl
  · refine ⟨?_, fun _ h => by cases h⟩
    rcases removal_cases hremoval with ⟨-, hsame⟩ | ⟨hnone, -⟩
    · rcases hfirstOwed with hmarked | hblank
      · refine .inl ?_
        rw [Directory.Marked, hsame]
        exact hmarked
      · refine .inr ?_
        rcases removal_same_or_gone hremoval "mdbx.dat" with heq | ⟨-, hnone⟩
        · rwa [Directory.Blank, heq]
        · exact .inl hnone
    · exact .inr (.inl hnone)
  · rcases removal_cases hremoval with ⟨hne, -⟩ | ⟨hnone, -⟩
    · exact absurd rfl hne
    · refine ⟨.inr (hsecond.created hnone), ?_⟩
      rintro data rfl
      exact (hsecond.after_removal hremoval).1

end Directory

/-- The directory, and whether a node runs on it. -/
structure Host where
  dir : Directory
  running : Bool

/-- What happened to the directory. -/
inductive HostEvent where
  | started (handedOut : Option StoreData)
  | reconciled (result : Except ReconcileError Bool)
  | requested (written : Bool)
  | wrote
  | stopped
  | changed

/-- A reconciliation of the window that is stored; the error that asks for a rebuild has written
the marker, or failed to. -/
def Host.reconcile (host : Host) (config : ProofHistoryConfig) (node : StartupNode)
    (chain : CanonicalBlocks) (data : StoreData) : Host × Except ReconcileError Bool :=
  let (window, result) := reconcileOrWait config node chain data.window
  let status := if data.window.isNone ∧ window.isSome then .completed else data.status
  let dir := Function.update host.dir "mdbx.dat" (some (.store { data with window, status }))
  match result with
  | .error (.rebuildRequested _ marked) =>
    ({ host with dir := (requestProofHistoryRebuild marked dir).1 }, result)
  | _ => ({ host with dir }, result)

/-- What happens to the directory.  The writers of a node that runs change the database at will,
also after the sidecar failed and before the node is down.  A backfill that failed asks for a
rebuild outside of a reconciliation. -/
inductive HostStep : Host → HostEvent → Host → Prop
  | start {host : Host} {dir : Directory} {result : Except StorageInitError StoreData}
      (faults : OpenFaults) (hstopped : host.running = false)
      (hopen : openProofHistoryStorage faults host.dir = (dir, result)) :
      HostStep host (.started result.toOption) ⟨dir, result.isOk⟩
  | reconcile {host host' : Host} {data : StoreData} {result : Except ReconcileError Bool}
      (config : ProofHistoryConfig) (node : StartupNode) (chain : CanonicalBlocks)
      (hrunning : host.running = true) (hdata : host.dir "mdbx.dat" = some (.store data))
      (hreconcile : host.reconcile config node chain data = (host', result)) :
      HostStep host (.reconciled result) host'
  | write {host : Host} (data : StoreData) (hrunning : host.running = true) :
      HostStep host .wrote
        { host with dir := Function.update host.dir "mdbx.dat" (some (.store data)) }
  | request {host : Host} {data : StoreData} {earliest : ℕ} (writable : Bool)
      (chain : CanonicalBlocks) (hrunning : host.running = true)
      (hdata : host.dir "mdbx.dat" = some (.store data))
      (haction : startupAction chain data.window = .ok (.rebuildRequired earliest)) :
      HostStep host (.requested writable)
        { host with dir := (requestProofHistoryRebuild writable host.dir).1 }
  | stop (host : Host) : HostStep host .stopped { host with running := false }
  | change {host : Host} {name : String} (entry : Option DirEntry)
      (hname : name ∉ proofHistoryStoreFiles) :
      HostStep host .changed { host with dir := Function.update host.dir name entry }

/-- The marker was written. -/
def HostEvent.Requests : HostEvent → Prop
  | .reconciled (.error (.rebuildRequested _ written)) => written = true
  | .requested written => written = true
  | _ => False

/-- A history in which no start hands anything out. -/
def HostRun : Host → Host → Prop :=
  Relation.ReflTransGen fun host host' =>
    ∃ event, HostStep host event host' ∧ ∀ data, event ≠ .started (some data)

/-- The rebuild is owed, and while a node runs the marker is there. -/
structure Host.Owes (host : Host) : Prop where
  owed : host.dir.Owed
  running : host.running = true → host.dir.Marked

section History

variable {host host' : Host} {event : HostEvent} {data : StoreData}

/-- A change of another file, or of the database, does not take the marker away. -/
lemma marked_update (dir : Directory) {name : String} (entry : Option DirEntry)
    (hname : name ≠ proofHistoryRebuildMarkerFile) :
    Directory.Marked (Function.update dir name entry) ↔ dir.Marked := by
  rw [Directory.Marked, Directory.Marked, Function.update_of_ne hname.symm]

lemma marked_requestProofHistoryRebuild (writable : Bool) (dir : Directory) :
    (requestProofHistoryRebuild writable dir).1.Marked ↔ dir.Marked ∨ writable = true := by
  cases writable with
  | true => exact iff_of_true rfl (.inr rfl)
  | false => exact (or_iff_left Bool.false_ne_true).symm

lemma mdbx_requestProofHistoryRebuild (writable : Bool) (dir : Directory) :
    (requestProofHistoryRebuild writable dir).1 "mdbx.dat" = dir "mdbx.dat" := by
  cases writable with
  | true =>
    have hne : "mdbx.dat" ≠ proofHistoryRebuildMarkerFile := by decide
    exact Function.update_of_ne hne (some (.file [])) dir
  | false => exact rfl

/-- A reconciliation keeps the marker, and writes it where it says so. -/
lemma Host.reconcile_eq {config : ProofHistoryConfig} {node : StartupNode} {chain : CanonicalBlocks}
    {result : Except ReconcileError Bool}
    (h : host.reconcile config node chain data = (host', result)) :
    host'.running = host.running ∧
      (host'.dir.Marked ↔
        host.dir.Marked ∨ ∃ earliest, result = .error (.rebuildRequested earliest true)) ∧
      ∃ data', host'.dir "mdbx.dat" = some (.store data') ∧
        reconcileOrWait config node chain data.window = (data'.window, result) := by
  have hupdate (entry : Option DirEntry) := marked_update host.dir entry
    (show "mdbx.dat" ≠ proofHistoryRebuildMarkerFile by decide)
  rcases hreconcile : reconcileOrWait config node chain data.window with ⟨window, answer⟩
  rw [Host.reconcile, hreconcile] at h
  dsimp only at h
  generalize (if data.window.isNone ∧ window.isSome then .completed else data.status) = status at h
  have hstored := Function.update_self "mdbx.dat" (some (.store { data with window, status }))
    host.dir
  split at h
  · next earliest marked =>
    cases h
    refine ⟨rfl, ?_, _, (mdbx_requestProofHistoryRebuild marked _).trans hstored, rfl⟩
    rw [marked_requestProofHistoryRebuild, hupdate]
    simp only [Except.error.injEq, ReconcileError.rebuildRequested.injEq, exists_eq_left']
  · next hanswer =>
    cases h
    refine ⟨rfl, ?_, _, hstored, rfl⟩
    rw [hupdate, or_iff_left]
    rintro ⟨earliest, rfl⟩
    exact hanswer earliest true rfl

/-- Only a start that hands something out ends what is owed. -/
lemma HostStep.owes (hstep : HostStep host event host') (howes : host.Owes)
    (hevent : ∀ data, event ≠ .started (some data)) : host'.Owes := by
  cases hstep with
  | @start dir result faults hstopped hopen =>
    refine ⟨(open_owed hopen howes.owed).1, fun hrunning => ?_⟩
    cases result with
    | ok data => exact absurd rfl (hevent data)
    | error e => cases hrunning
  | reconcile config node chain hrunning hdata hreconcile =>
    have hmarked := (Host.reconcile_eq hreconcile).2.1.mpr (.inl (howes.running hrunning))
    exact ⟨.inl hmarked, fun _ => hmarked⟩
  | write data hrunning =>
    have hmarked := (marked_update host.dir (some (.store data))
      (show "mdbx.dat" ≠ proofHistoryRebuildMarkerFile by decide)).mpr (howes.running hrunning)
    exact ⟨.inl hmarked, fun _ => hmarked⟩
  | request writable chain hrunning =>
    have hmarked := (marked_requestProofHistoryRebuild writable host.dir).mpr
      (.inl (howes.running hrunning))
    exact ⟨.inl hmarked, fun _ => hmarked⟩
  | stop => exact ⟨howes.owed, fun hrunning => by cases hrunning⟩
  | @change name entry hname =>
    have hmarker := marked_update host.dir entry
      (fun heq : name = proofHistoryRebuildMarkerFile => hname (heq ▸ by decide))
    refine ⟨?_, fun hrunning => hmarker.mpr (howes.running hrunning)⟩
    rcases howes.owed with hmarked | hblank
    · exact .inl (hmarker.mpr hmarked)
    · refine .inr ?_
      have hne : "mdbx.dat" ≠ name := fun heq => hname (heq ▸ by decide)
      have hsame : Function.update host.dir name entry "mdbx.dat" = host.dir "mdbx.dat" :=
        Function.update_of_ne hne _ _
      exact hblank.imp hsame.trans hsame.trans

lemma HostRun.owes (hrun : HostRun host host') (howes : host.Owes) : host'.Owes := by
  induction hrun with
  | refl => exact howes
  | tail _ hnext ih =>
    obtain ⟨event, hstep, hevent⟩ := hnext
    exact hstep.owes ih hevent

/-- An empty store asks for no rebuild. -/
lemma reconcileOrWait_empty (config : ProofHistoryConfig) (node : StartupNode)
    (chain : CanonicalBlocks) (earliest : ℕ) (marked : Bool) :
    (reconcileOrWait config node chain none).2 ≠ .error (.rebuildRequested earliest marked) := by
  have hfill : reconcileOrWait config node chain none = initializeOrWait config node none :=
    rfl
  rw [hfill, initializeOrWait]
  split_ifs
  · rintro ⟨⟩
  · split
    · rintro ⟨⟩
    · exact ensureInitialized_ne_rebuild

/-- A step that wrote the marker owes the rebuild. -/
lemma HostStep.owes_of_requests (hstep : HostStep host event host') (hevent : event.Requests) :
    host'.Owes := by
  suffices hmarked : host'.dir.Marked from ⟨.inl hmarked, fun _ => hmarked⟩
  cases hstep with
  | start => cases hevent
  | write => cases hevent
  | stop => cases hevent
  | change => cases hevent
  | request writable =>
    exact (marked_requestProofHistoryRebuild writable host.dir).mpr (.inr hevent)
  | @reconcile _ data result config node chain hrunning hdata hreconcile =>
    match result, hevent with
    | .error (.rebuildRequested earliest _), rfl =>
      exact (Host.reconcile_eq hreconcile).2.1.mpr (.inr ⟨earliest, rfl⟩)

/-- Once the store is marked, the next start that hands out a store hands out an empty one,
without the marker; whatever the node, failing starts and others do to the directory in between,
and wherever they stop.  That store asks for no rebuild. -/
theorem rebuild_not_lost {requested after : Host} (hevent : event.Requests)
    (hrequest : HostStep host event requested) (hrun : HostRun requested host')
    (hstart : HostStep host' (.started (some data)) after) :
    data = .empty ∧ after.dir "mdbx.dat" = some (.store .empty) ∧ ¬after.dir.Marked ∧
      ∀ config node chain earliest marked,
        (reconcileOrWait config node chain data.window).2 ≠
          .error (.rebuildRequested earliest marked) := by
  have howes := hrun.owes (hrequest.owes_of_requests hevent)
  clear hevent
  generalize hevent : HostEvent.started _ = event at hstart
  cases hstart with
  | reconcile => cases hevent
  | write => cases hevent
  | request => cases hevent
  | stop => cases hevent
  | change => cases hevent
  | @start dir result faults hstopped hopen =>
    cases result with
    | error e => cases hevent
    | ok handedOut =>
      cases hevent
      obtain rfl := (open_owed hopen howes.owed).2 data rfl
      obtain ⟨hreason, hdata, -⟩ := open_eq_ok hopen
      refine ⟨rfl, hdata, fun hmarked : (dir _).isSome = true => ?_, reconcileOrWait_empty⟩
      rw [(rebuildReason_eq_none.mp hreason).1] at hmarked
      cases hmarked

end History

/-! ### A rebuild that is interrupted -/

/-- The earliest block that is stored was replaced, and the directory has another file. -/
def divergedHost : Host where
  dir name :=
    if name = "mdbx.dat" then some (.store ⟨false, .completed, some ⟨⟨1, 9⟩, [], ⟨1, 9⟩⟩⟩)
    else if name = "jwt.hex" then some (.file [7])
    else none
  running := true

/-- The host after the store was marked and the node went down. -/
def markedHost : Host :=
  { (divergedHost.reconcile ⟨100, 100, true⟩ ⟨true, none, 0, none⟩ threeBlocks
    ⟨false, .completed, some ⟨⟨1, 9⟩, [], ⟨1, 9⟩⟩⟩).1 with running := false }

/-- Opens the store, and creates its database where it is missing. -/
def openOrCreate : OpenMdbx where
  run dir :=
    match dir "mdbx.dat" with
    | none => (Function.update dir "mdbx.dat" (some (.store .empty)), .ok .empty)
    | some (.store data) => (dir, .ok data)
    | some _ => (dir, .error .openFailed)
  opened dir := by
    split
    · next hnone =>
      have hcreated := Function.update_self "mdbx.dat" (some (DirEntry.store .empty)) dir
      refine ⟨fun name hname => ?_, fun name hsome => ?_, fun _ => .inr hcreated, ?_⟩
      · refine Function.update_of_ne ?_ _ dir
        rintro rfl
        exact hname (by decide)
      · refine Function.update_of_ne ?_ _ dir
        rintro rfl
        rw [hnone] at hsome
        cases hsome
      · rintro data ⟨⟩
        exact hcreated
    · next data hdata =>
      exact ⟨fun _ _ => rfl, fun _ _ => rfl, fun h => .inl h,
        fun data' h => Except.ok.inj h ▸ hdata⟩
    · exact ⟨fun _ _ => rfl, fun _ _ => rfl, fun h => .inl h, fun _ h => by cases h⟩

/-- A start in which nothing fails. -/
def noFaults : OpenFaults := ⟨openOrCreate, false, fun _ => false, openOrCreate⟩

/-- A start that deletes all but the marker. -/
def interrupted : OpenFaults :=
  { noFaults with undeletable := fun name => name = proofHistoryRebuildMarkerFile }

/-- A start that is interrupted keeps the marker, and the next one hands out an empty store. -/
theorem rebuild_not_lost_interrupted :
    (openProofHistoryStorage interrupted markedHost.dir).2 =
      .error (.deletionFailed proofHistoryRebuildMarkerFile) ∧
    (openProofHistoryStorage noFaults
      (openProofHistoryStorage interrupted markedHost.dir).1).1 "mdbx.dat" =
        some (.store .empty) := by
  refine ⟨by decide, ?_⟩
  have hrequest : HostStep divergedHost
      (.reconciled (.error (.rebuildRequested 1 true)))
      { markedHost with running := true } :=
    .reconcile ⟨100, 100, true⟩ ⟨true, none, 0, none⟩ threeBlocks rfl rfl rfl
  have hrun : HostRun { markedHost with running := true }
      ⟨(openProofHistoryStorage interrupted markedHost.dir).1, false⟩ := by
    refine .head ⟨_, .stop _, by rintro _ ⟨⟩⟩ (.single ⟨.started none, ?_, by rintro _ ⟨⟩⟩)
    exact @HostStep.start _ _ (.error (.deletionFailed proofHistoryRebuildMarkerFile))
      interrupted rfl rfl
  have hevent : HostEvent.Requests (.reconciled (.error (.rebuildRequested 1 true))) := rfl
  exact (rebuild_not_lost hevent hrequest hrun
    (@HostStep.start _ _ (.ok .empty) noFaults rfl rfl)).2.1

end AlethiaReth.ProofHistory
