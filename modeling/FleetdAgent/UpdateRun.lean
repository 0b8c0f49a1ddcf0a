import FleetdAgent.Trace

/-!
# What one update job can do

This module says once what each stage of `_handle_update_command` can log,
so that every later fact about an update job (the checksum gate, the report
sequence, the progress values, the acknowledgements) is read off one lemma
instead of re-running the code.

The two loops get a lemma each, by induction: the download loop logs only
download steps, reports progress values that never decrease and lie between
the progress of the bytes before it and that of all streamed bytes, and
leaves the update file holding exactly what it wrote; the read-back loop
logs only reads of the file and feeds the hash exactly what it read.
-/

namespace FleetdAgent

open Agent

namespace Event

/-- An event a download of `updateId` may log. -/
def DownloadStep (updateId : Json) : Event → Prop
  | makeDirs .. | download .. | openWrite .. | write .. => True
  | updateStatus u data => u = updateId ∧ data.status = "downloading" ∧ data.error = none
  | _ => False

/-- An event the read-back of `path` may log. -/
def ReadStep (path : String) : Event → Prop
  | openRead p _ | read p .. => p = path
  | _ => False

end Event

/-- The number of bytes a download stream yields. -/
def Download.byteCount (dl : Download) : Nat := dl.chunks.flatten.length

/-- The progress values the download loop reports over `chunks` from
`downloaded` bytes on when every write returns: the progress after each
chunk. -/
def chunkProgress (totalSize : Int) : Nat → List Bytes → List Int
  | _, [] => []
  | downloaded, chunk :: rest =>
    downloadProgressDouble (downloaded + chunk.length) totalSize ::
      chunkProgress totalSize (downloaded + chunk.length) rest

/-- What the download loop does from `downloaded` bytes on, over a file
holding `b`. -/
theorem writeChunks_spec (path : String) (updateId : Json) (totalSize : Int) :
    ∀ (downloaded : Nat) (chunks : List Bytes) (env : Env) (w : World) (b : Bytes),
      w.files path = some b →
      let r := writeChunks path updateId totalSize downloaded chunks env w
      ∃ W, r.2.events = w.events ++ W ∧ (∀ e ∈ W, e.DownloadStep updateId) ∧
        r.2.files path = some (b ++ writtenTo path W) ∧
        (r.1 = .ok () → writtenTo path W = chunks.flatten) ∧
        (progressValues W).Pairwise (· ≤ ·) ∧
        ∀ p ∈ progressValues W, 0 < totalSize ∧ downloadProgressDouble downloaded totalSize ≤ p ∧
          p ≤ downloadProgressDouble (downloaded + chunks.flatten.length) totalSize
  | _, [], env, w, b, hb => ⟨[], by simp [writeChunks, hb]⟩
  | downloaded, chunk :: rest, env, w, b, hb => by
    simp only [writeChunks, bind_apply, writeFile]
    rcases env.file w.events.length with e | ⟨⟨⟩⟩
    · exact ⟨[.write path chunk (.error e)], rfl, List.forall_iff_forall_mem.1 trivial,
        by simp [hb, Event.written?], nofun, .nil, nofun⟩
    · simp only [hb, Option.getD_some, pure_apply]
      by_cases hpos : 0 < totalSize
      · simp only [gt_iff_lt, hpos, if_true, bind_apply, reportUpdateStatus_apply,
          Option.filter_none]
        obtain ⟨W, hev, hstep, hfile, hok, hsorted, hbound⟩ := writeChunks_spec path updateId
          totalSize (downloaded + chunk.length) rest env
          (((w.record (.write path chunk (.ok ()))).setFile path (b ++ chunk)).record
            (.updateStatus updateId ⟨"downloading",
              some (downloadProgressDouble (downloaded + chunk.length) totalSize), none⟩))
          (b ++ chunk) (by simp)
        refine ⟨.write path chunk (.ok ()) :: .updateStatus updateId
          ⟨"downloading", some (downloadProgressDouble (downloaded + chunk.length) totalSize), none⟩ ::
            W,
          by simp [hev], ?_, by simp [hfile, Event.written?], fun h => by
            simp [Event.written?, hok h], ?_, ?_⟩
        · exact List.forall_mem_cons.2 ⟨trivial, List.forall_mem_cons.2 ⟨⟨rfl, rfl, rfl⟩, hstep⟩⟩
        · simpa [Event.report?] using And.intro (fun p hp => (hbound p hp).2.1) hsorted
        · have hmono := @downloadProgressDouble_mono downloaded (downloaded + chunk.length) _ hpos
            (by omega)
          intro p hp
          simp only [progressValues_cons, Event.report?, Option.bind, Option.toList,
            List.nil_append, List.singleton_append, List.mem_cons] at hp
          simp only [List.flatten_cons, List.length_append, ← Nat.add_assoc]
          rcases hp with rfl | hp
          · exact ⟨trivial, hmono, downloadProgressDouble_mono hpos (by omega)⟩
          · obtain ⟨-, h1, h2⟩ := hbound p hp
            exact ⟨trivial, Int.le_trans hmono h1, h2⟩
      · simp only [gt_iff_lt, hpos, if_false, bind_apply, pure_apply]
        obtain ⟨W, hev, hstep, hfile, hok, hsorted, hbound⟩ := writeChunks_spec path updateId
          totalSize (downloaded + chunk.length) rest env
          ((w.record (.write path chunk (.ok ()))).setFile path (b ++ chunk)) (b ++ chunk) (by simp)
        refine ⟨.write path chunk (.ok ()) :: W, by simp [hev], ?_, by simp [hfile, Event.written?],
          fun h => by simp [Event.written?, hok h], by simpa [Event.report?] using hsorted,
          fun p hp => absurd (hbound p (by simpa [Event.report?] using hp)).1 hpos⟩
        exact List.forall_mem_cons.2 ⟨trivial, hstep⟩

/-- What a download can do: it logs only download steps, its progress values
never decrease and stay below the progress of every streamed byte, and when
it returns, the update file holds exactly what it wrote. -/
theorem downloadUpdate_spec (url updateId : Json) (env : Env) (w : World) :
    let r := downloadUpdate url updateId env w
    ∃ D, r.2.events = w.events ++ D ∧ (∀ e ∈ D, e.DownloadStep updateId) ∧
      (progressValues D).Pairwise (· ≤ ·) ∧
      (∀ p ∈ progressValues D, ∃ dl L, env.download (w.events.length + 1) = .ok dl ∧
        dl.totalSize = .ok L ∧ 0 < L ∧ 0 ≤ p ∧ p ≤ downloadProgressDouble dl.byteCount L) ∧
      ∀ path, r.1 = .ok path →
        path = updateFilePath updateId ∧ r.2.files path = some (writtenTo path D) := by
  simp only [downloadUpdate, makeDirs, requestsGet, bind_apply, call_apply, lift_apply,
    World.record_events, List.length_append, List.length_singleton]
  rcases env.file w.events.length with e | ⟨⟨⟩⟩
  · exact ⟨[.makeDirs updateDir (.error e)], rfl, List.forall_iff_forall_mem.1 trivial, .nil, nofun, by simp⟩
  simp only [World.record_events, List.length_append, List.length_singleton]
  rcases hdl : env.download (w.events.length + 1) with e | dl
  · exact ⟨[.makeDirs updateDir (.ok ()), .download url (.error e)], by simp [hdl],
      List.forall_iff_forall_mem.1 ⟨trivial, trivial⟩, .nil, nofun, by simp [hdl]⟩
  rcases hrs : raiseForStatus dl.statusCode with e | ⟨⟨⟩⟩
  · exact ⟨[.makeDirs updateDir (.ok ()), .download url (.ok dl)], by simp [hrs],
      List.forall_iff_forall_mem.1 ⟨trivial, trivial⟩, .nil, nofun, by simp [hrs]⟩
  rcases hL : dl.totalSize with e | L
  · exact ⟨[.makeDirs updateDir (.ok ()), .download url (.ok dl)], by simp [hrs, hL],
      List.forall_iff_forall_mem.1 ⟨trivial, trivial⟩, .nil, nofun, by simp [hrs, hL]⟩
  simp only [hrs, hL, openWrite, World.record_events, List.length_append, List.length_singleton]
  rcases env.file (w.events.length + 1 + 1) with e | ⟨⟨⟩⟩
  · exact ⟨[.makeDirs updateDir (.ok ()), .download url (.ok dl),
      .openWrite (updateFilePath updateId) (.error e)], by simp,
      List.forall_iff_forall_mem.1 ⟨trivial, trivial, trivial⟩, .nil, nofun, by simp⟩
  dsimp only
  generalize hw3 : (((w.record (.makeDirs updateDir (.ok ()))).record (.download url (.ok dl))).record
    (.openWrite (updateFilePath updateId) (.ok ()))).setFile (updateFilePath updateId) [] = w3
  obtain ⟨W, hev, hstep, hfile, hok, hsorted, hbound⟩ :=
    writeChunks_spec (updateFilePath updateId) updateId L 0 dl.chunks env w3 [] (by simp [← hw3])
  rcases hwc : writeChunks (updateFilePath updateId) updateId L 0 dl.chunks env w3 with ⟨r, w4⟩
  simp only [hwc] at hev hfile hok
  have hw3ev : w3.events = w.events ++ [.makeDirs updateDir (.ok ()), .download url (.ok dl),
      .openWrite (updateFilePath updateId) (.ok ())] := by simp [← hw3]
  refine ⟨[.makeDirs updateDir (.ok ()), .download url (.ok dl),
      .openWrite (updateFilePath updateId) (.ok ())] ++ W, ?_, ?_, by simpa [Event.report?] using hsorted,
      fun p hp => ?_, fun path hpath => ?_⟩
  · rcases r with _ | _ <;> rcases dl.streamEnd with _ | _ <;> simp [hev, hw3ev]
  · exact List.forall_mem_append.2 ⟨List.forall_iff_forall_mem.1 ⟨trivial, trivial, trivial⟩, hstep⟩
  · obtain ⟨hpos, hlow, hhigh⟩ := hbound p (by simpa [Event.report?] using hp)
    exact ⟨dl, L, rfl, hL, hpos, (downloadProgressDouble_nonneg 0 hpos).trans hlow,
      by simpa [Download.byteCount] using hhigh⟩
  · rcases r with _ | _ <;> rcases hse : dl.streamEnd with _ | _ <;> simp [hse] at hpath
    subst hpath
    simp [hfile, Event.written?]

/-- With every file call answered, the write loop returns normally. -/
theorem writeChunks_ok {env : Env} (hfile : ∀ n, env.file n = .ok ()) (path : String)
    (updateId : Json) (totalSize : Int) :
    ∀ (downloaded : Nat) (chunks : List Bytes) (w : World),
      (writeChunks path updateId totalSize downloaded chunks env w).1 = .ok ()
  | _, [], _ => rfl
  | downloaded, chunk :: rest, w => by
    simp only [writeChunks, bind_apply, writeFile, hfile, Agent.ite_apply, reportUpdateStatus_apply,
      pure_apply]
    split <;> exact writeChunks_ok hfile path updateId totalSize _ rest _

/-- With every file call answered and a positive length, the download loop
reports the progress after each chunk. -/
theorem writeChunks_progressValues {env : Env} (hfile : ∀ n, env.file n = .ok ()) (path : String)
    (updateId : Json) {totalSize : Int} (hpos : 0 < totalSize) :
    ∀ (downloaded : Nat) (chunks : List Bytes) (w : World),
      progressValues (writeChunks path updateId totalSize downloaded chunks env w).2.events =
        progressValues w.events ++ chunkProgress totalSize downloaded chunks
  | _, [], _ => by simp [writeChunks, chunkProgress]
  | downloaded, chunk :: rest, w => by
    simp only [writeChunks, bind_apply, writeFile, hfile, gt_iff_lt, hpos, if_true,
      reportUpdateStatus_apply, writeChunks_progressValues hfile path updateId hpos _ rest,
      chunkProgress]
    simp [Event.report?]

/-- A download answered by a success with a readable length and a stream that
ends cleanly, with every file call answered, returns the update file, which
then holds the concatenated chunks; under a positive length it reports the
progress after each chunk. -/
theorem downloadUpdate_ok {env : Env} {w : World} {dl : Download} {L : Int} (url updateId : Json)
    (hfile : ∀ n, env.file n = .ok ()) (hdl : env.download (w.events.length + 1) = .ok dl)
    (hstatus : raiseForStatus dl.statusCode = .ok ()) (hsize : dl.totalSize = .ok L)
    (hend : dl.streamEnd = .ok ()) :
    (downloadUpdate url updateId env w).1 = .ok (updateFilePath updateId) ∧
      (downloadUpdate url updateId env w).2.files (updateFilePath updateId) =
        some dl.chunks.flatten ∧
      (0 < L → progressValues (downloadUpdate url updateId env w).2.events =
        progressValues w.events ++ chunkProgress L 0 dl.chunks) := by
  simp only [downloadUpdate, makeDirs, requestsGet, openWrite, bind_apply, call_apply, lift_apply,
    World.record_events, List.length_append, List.length_singleton, hfile, hdl, hstatus, hsize]
  generalize hw3 : (((w.record (.makeDirs updateDir (.ok ()))).record (.download url (.ok dl))).record
    (.openWrite (updateFilePath updateId) (.ok ()))).setFile (updateFilePath updateId) [] = w3
  obtain ⟨W, -, -, hfiles, hwritten, -⟩ :=
    writeChunks_spec (updateFilePath updateId) updateId L 0 dl.chunks env w3 [] (by simp [← hw3])
  have hok := writeChunks_ok hfile (updateFilePath updateId) updateId L 0 dl.chunks w3
  have hprog := fun hpos : 0 < L =>
    writeChunks_progressValues hfile (updateFilePath updateId) updateId hpos 0 dl.chunks w3
  rcases hwc : writeChunks (updateFilePath updateId) updateId L 0 dl.chunks env w3 with ⟨r, w4⟩
  simp only [hwc] at hfiles hwritten hok hprog
  subst hok
  refine ⟨by simp [hend], by simp [hend, hfiles, hwritten rfl], fun hpos => ?_⟩
  simp [hend, hprog hpos, ← hw3, Event.report?]

/-- What the read-back loop does over what is left of the file: it logs only
reads of the file, and when it returns, the hash has been fed exactly what
was left, which is what the reads returned. -/
theorem readBlocks_spec (path : String) (rest hashed : Bytes) (env : Env) (w : World) :
    let r := readBlocks path rest hashed env w
    ∃ V, r.2.events = w.events ++ V ∧ (∀ e ∈ V, e.ReadStep path) ∧ r.2.files = w.files ∧
      ∀ h, r.1 = .ok h → h = hashed ++ rest ∧ readFrom path V = rest := by
  induction rest, hashed using readBlocks.induct path generalizing w with
  | case1 rest hashed ih =>
    rw [readBlocks]
    simp only [readBlock, bind_apply, call_apply]
    rcases ha : env.file w.events.length with e | ⟨⟨⟩⟩
    · exact ⟨[.read path (rest.take 4096) (.error e)], rfl, List.forall_iff_forall_mem.1 rfl, rfl, by simp⟩
    by_cases hend : rest.take 4096 = []
    · have hrest : rest = [] := by simpa using hend
      subst hrest
      exact ⟨[.read path [] (.ok ())], by simp, List.forall_iff_forall_mem.1 rfl, by simp,
        by simp [Event.readBack?]⟩
    obtain ⟨V, hev, hstep, hfiles, hok⟩ := ih hend (w.record (.read path (rest.take 4096) (.ok ())))
    simp only [if_neg hend]
    refine ⟨.read path (rest.take 4096) (.ok ()) :: V, by simp [hev], ?_, by simp [hfiles],
      fun h hh => ?_⟩
    · exact List.forall_mem_cons.2 ⟨rfl, hstep⟩
    · obtain ⟨rfl, hread⟩ := hok h hh
      simp [Event.readBack?, hread]

/-- With every file call answered, the read-back loop feeds the hash all
that is left of the file. -/
theorem readBlocks_ok {env : Env} (hfile : ∀ n, env.file n = .ok ()) (path : String)
    (rest hashed : Bytes) (w : World) :
    (readBlocks path rest hashed env w).1 = .ok (hashed ++ rest) := by
  induction rest, hashed using readBlocks.induct path generalizing w with
  | case1 rest hashed ih =>
    rw [readBlocks]
    simp only [readBlock, bind_apply, call_apply, hfile]
    by_cases hend : rest.take 4096 = []
    · have hrest : rest = [] := by simpa using hend
      subst hrest
      simp
    · simp only [if_neg hend, ih hend, List.append_assoc, List.take_append_drop]

section Checksum

variable (sha256Hex : Bytes → String)

/-- What a verification can do: it logs only reads of the file and changes no
file, and when it returns, it has read the whole file back and its answer is
the comparison of the file's digest with the expected checksum. -/
theorem verifyChecksum_spec (path : String) (expected : Json) (env : Env) (w : World) :
    let r := verifyChecksum sha256Hex path expected env w
    ∃ V, r.2.events = w.events ++ V ∧ (∀ e ∈ V, e.ReadStep path) ∧ r.2.files = w.files ∧
      ∀ b, r.1 = .ok b → ∃ contents, w.files path = some contents ∧
        readFrom path V = contents ∧ b = expected.isStr (sha256Hex contents) := by
  simp only [verifyChecksum, openRead, bind_apply]
  rcases env.file w.events.length with e | ⟨⟨⟩⟩
  · exact ⟨[.openRead path (.error e)], rfl, List.forall_iff_forall_mem.1 rfl, rfl, by simp⟩
  rcases hc : w.files path with _ | contents
  · exact ⟨[.openRead path (.error (fileNotFound path))], rfl, List.forall_iff_forall_mem.1 rfl, rfl,
      by simp⟩
  dsimp only
  obtain ⟨V, hev, hstep, hfiles, hok⟩ :=
    readBlocks_spec path contents [] env (w.record (.openRead path (.ok ())))
  rcases hrb : readBlocks path contents [] env (w.record (.openRead path (.ok ()))) with ⟨r, w'⟩
  simp only [hrb] at hev hfiles hok
  refine ⟨.openRead path (.ok ()) :: V, ?_, List.forall_mem_cons.2 ⟨rfl, hstep⟩, ?_,
    fun b hb => ?_⟩
  · rcases r <;> simp [hev]
  · rcases r <;> simp [hfiles]
  · rcases r with _ | hashed
    · simp at hb
    obtain ⟨hh, hread⟩ := hok _ rfl
    rw [List.nil_append] at hh
    subst hh
    simp only [pure_apply, Except.ok.injEq] at hb
    exact ⟨_, rfl, by simp [Event.readBack?, hread], hb.symm⟩

/-- With every file call answered, the verification of a file that exists
returns the comparison of its digest with the expected checksum. -/
theorem verifyChecksum_ok {env : Env} {w : World} {path : String} {contents : Bytes}
    (hfile : ∀ n, env.file n = .ok ()) (hc : w.files path = some contents) (expected : Json) :
    (verifyChecksum sha256Hex path expected env w).1 = .ok (expected.isStr (sha256Hex contents)) := by
  simp only [verifyChecksum, openRead, bind_apply, hfile, hc]
  have hok := readBlocks_ok hfile path contents [] (w.record (.openRead path (.ok ())))
  rcases hrb : readBlocks path contents [] env (w.record (.openRead path (.ok ()))) with ⟨r, w'⟩
  simp only [hrb, List.nil_append] at hok
  subst hok
  rfl

/-- The two posts of the update handler's `except` branch. -/
def failedPosts (commandId updateId : Json) (e : PyError) : List Event :=
  [.updateStatus updateId ⟨"failed", none, (some e.text).filter (!·.isEmpty)⟩,
    .ack commandId ⟨"failed", none, (some e.text).filter (!·.isEmpty)⟩]

/-- Everything one update job with a `dict` payload can do, stage by stage.
It returns normally; it first reports `downloading` and downloads, and then
either the download failed, or it reports `verifying` and reads the file
back, and then either the verification failed, or the bytes read back are
the bytes written and their digest is the checksum, and the job reports
`installing` and runs the installer, and so on to the reboot. -/
theorem handleUpdateCommand_cases (commandId : Json) (fields : List (String × Json)) (env : Env)
    (w : World) :
    let updateId := (fields.lookup "update_id").getD .null
    let checksum := (fields.lookup "checksum").getD .null
    let path := updateFilePath updateId
    let report := fun (status : String) (progress : Int) =>
      Event.updateStatus updateId ⟨status, some progress, none⟩
    let r := handleUpdateCommand sha256Hex commandId (.obj fields) env w
    r.1 = .ok () ∧ ∃ D, (∀ e ∈ D, e.DownloadStep updateId) ∧
      (progressValues D).Pairwise (· ≤ ·) ∧
      (∀ p ∈ progressValues D, ∃ dl L, env.download (w.events.length + 2) = .ok dl ∧
        dl.totalSize = .ok L ∧ 0 < L ∧ 0 ≤ p ∧ p ≤ downloadProgressDouble dl.byteCount L) ∧
      ((∃ e, r.2.events = w.events ++ report "downloading" 0 :: D ++ failedPosts commandId updateId e) ∨
       ∃ V, (∀ e ∈ V, e.ReadStep path) ∧
        ((∃ e, r.2.events = w.events ++ report "downloading" 0 :: D ++ report "verifying" 50 :: V ++
            failedPosts commandId updateId e) ∨
         readFrom path V = writtenTo path D ∧ checksum.isStr (sha256Hex (writtenTo path D)) ∧
          let done := w.events ++ report "downloading" 0 :: D ++ report "verifying" 50 :: V ++
            [report "installing" 75]
          (∃ e, r.2.events = done ++ Event.install path (.error e) :: failedPosts commandId updateId e) ∨
          let completed := done ++ [.install path (.ok ()), report "completed" 100,
            .ack commandId ⟨"completed", none, none⟩]
          (((fields.lookup "reboot_required").getD .null).truthy = false ∧ r.2.events = completed) ∨
          (((fields.lookup "reboot_required").getD .null).truthy = true ∧
            ((∃ c, r.2.events = completed ++ [.reboot false (.ok c)]) ∨
             ∃ e, r.2.events = completed ++ Event.reboot false (.error e) ::
               failedPosts commandId updateId e)))) := by
  intro updateId checksum path report r
  obtain ⟨D, hD, hstep, hsorted, hbound, hres⟩ := downloadUpdate_spec
    ((fields.lookup "download_url").getD .null) updateId env (w.record (report "downloading" 0))
  simp only [World.record_events, List.length_append, List.length_singleton] at hbound
  simp only [r, handleUpdateCommand, Json.get_obj, bind_apply, lift_apply, liftM, tryCatch_apply,
    reportUpdateStatus_apply, Option.filter_none]
  rcases hdl : (downloadUpdate ((fields.lookup "download_url").getD .null) updateId env
    (w.record (report "downloading" 0))) with ⟨e | path', w2⟩
  · simp only [hdl] at hD
    exact ⟨by simp, D, hstep, hsorted, hbound, .inl ⟨e, by simp [hD, failedPosts]⟩⟩
  obtain ⟨rfl, hfile⟩ := hres path' (by simp [hdl])
  simp only [hdl] at hD hfile
  dsimp only
  obtain ⟨V, hV, hVstep, hVfiles, hVok⟩ :=
    verifyChecksum_spec sha256Hex path checksum env (w2.record (report "verifying" 50))
  rcases hvc : (verifyChecksum sha256Hex path checksum env (w2.record (report "verifying" 50))) with
    ⟨e | b, w4⟩
  · simp only [hvc] at hV
    exact ⟨by simp, D, hstep, hsorted, hbound,
      .inr ⟨V, hVstep, .inl ⟨e, by simp [hV, hD, failedPosts]⟩⟩⟩
  obtain ⟨contents, hcontents, hread, hb⟩ := hVok b (by simp [hvc])
  simp only [hvc] at hV hVfiles
  have hc : contents = writtenTo path D := by simpa [hfile] using hcontents.symm
  subst hc
  cases b
  · exact ⟨by simp, D, hstep, hsorted, hbound, .inr ⟨V, hVstep,
      .inl ⟨⟨"ValueError", "Checksum verification failed"⟩, by simp [hV, hD, failedPosts]⟩⟩⟩
  simp only [if_true, bind_apply, pure_apply, reportUpdateStatus_apply, installUpdate, call_apply,
    Option.filter_none, World.record_events, List.length_append, List.length_singleton]
  rcases hi : env.install (w4.events.length + 1) with e | ⟨⟨⟩⟩
  · exact ⟨by simp, D, hstep, hsorted, hbound, .inr ⟨V, hVstep, .inr ⟨hread, hb.symm,
      .inl ⟨e, by simp [hV, hD, failedPosts]⟩⟩⟩⟩
  dsimp only
  simp only [acknowledgeCommand_apply, Option.filter_none]
  cases hreboot : ((fields.lookup "reboot_required").getD .null).truthy
  · exact ⟨by simp [hreboot], D, hstep, hsorted, hbound, .inr ⟨V, hVstep, .inr ⟨hread, hb.symm,
      .inr (.inl ⟨rfl, by simp [hreboot, hV, hD]⟩)⟩⟩⟩
  simp only [if_true, runReboot, bind_apply, call_apply, World.record_events, List.length_append,
    List.length_singleton]
  rcases hp : env.proc (w4.events.length + 1 + 1 + 1 + 1) with e | c
  · exact ⟨by simp, D, hstep, hsorted, hbound, .inr ⟨V, hVstep, .inr ⟨hread, hb.symm,
      .inr (.inr ⟨trivial, .inr ⟨e, by simp [hV, hD, failedPosts]⟩⟩)⟩⟩⟩
  · exact ⟨by simp, D, hstep, hsorted, hbound, .inr ⟨V, hVstep, .inr ⟨hread, hb.symm,
      .inr (.inr ⟨trivial, .inl ⟨c, by simp [hV, hD]⟩⟩)⟩⟩⟩
end Checksum

end FleetdAgent
