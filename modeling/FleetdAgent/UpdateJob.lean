import FleetdAgent.UpdateRun

/-!
# Properties of an update job

Three facts about one run of `_handle_update_command`, each read off
`handleUpdateCommand_cases`: the checksum gate (nothing is installed, and
nothing reported or acknowledged as installed or rebooted into, unless the
bytes read back are the bytes written and their digest is the checksum), the
sequence of status reports as a run of the update state machine, and the
progress values those reports carry.  The last section proves the converse of
the gate when every collaborator succeeds: the job then installs exactly when
the checksum is the digest of the chunks, spelled as `hexdigest()` spells it.
-/

namespace FleetdAgent

section Logs

variable {path : String}

theorem readFrom_eq_nil {es : List Event} (h : ∀ e ∈ es, e.readBack? path = none) :
    readFrom path es = [] := by
  simp [readFrom, List.filterMap_eq_nil_iff.2 h]

theorem writtenTo_eq_nil {es : List Event} (h : ∀ e ∈ es, e.written? path = none) :
    writtenTo path es = [] := by
  simp [writtenTo, List.filterMap_eq_nil_iff.2 h]

theorem Event.DownloadStep.not_gated {updateId : Json} {e : Event} (h : e.DownloadStep updateId) :
    ¬ e.Gated ∧ e.readBack? path = none := by
  cases e <;> simp_all [Event.DownloadStep, Event.Gated, Event.readBack?]

theorem Event.ReadStep.not_gated {e : Event} {p : String} (h : e.ReadStep p) :
    ¬ e.Gated ∧ e.written? path = none := by
  cases e <;> simp_all [Event.ReadStep, Event.Gated, Event.written?]

theorem Event.ReadStep.report_none {e : Event} {p : String} (h : e.ReadStep p) :
    e.report? = none := by
  cases e <;> first | rfl | exact False.elim h

theorem Event.DownloadStep.status_of_report {updateId : Json} {e : Event} {data : StatusData}
    (h : e.DownloadStep updateId) (hr : e.report? = some data) : data.status = "downloading" := by
  cases e with
  | updateStatus _ d => cases hr; exact h.2.1
  | _ => cases hr

theorem failedPosts_inert (path : String) (commandId updateId : Json) (err : PyError) :
    ∀ e ∈ failedPosts commandId updateId err,
      ¬ e.Gated ∧ e.readBack? path = none ∧ e.written? path = none := by
  simp [failedPosts, Event.Gated, Event.readBack?, Event.written?]

/-- Where a gated event stands in a log whose gated events all come after an
ungated part `A`: after the whole of `A`. -/
theorem prefix_of_gated {A S pre post : List Event} {e : Event} (hA : ∀ x ∈ A, ¬ x.Gated)
    (he : e.Gated) (h : pre ++ e :: post = A ++ S) : ∃ S', pre = A ++ S' ∧ ∀ x ∈ S', x ∈ S := by
  rcases List.append_eq_append_iff.1 h with ⟨a', hA', hS⟩ | ⟨c', hpre, hS⟩
  · cases a' with
    | nil => exact ⟨[], by simpa using hA'.symm, by simp⟩
    | cons x xs =>
      cases hS
      exact absurd he (hA _ (by simp [hA']))
  · exact ⟨c', hpre, fun x hx => by simp [hS, hx]⟩

end Logs

section Gate

variable (sha256Hex : Bytes → String)

/-- The runs of an update job, split at the checksum verdict: either the job
failed before anything gated, or a verified prefix is followed by steps that
touch no file. -/
theorem handleUpdateCommand_verdict (commandId : Json) (fields : List (String × Json))
    (env : Env) (w : World) :
    let updateId := (fields.lookup "update_id").getD .null
    let checksum := (fields.lookup "checksum").getD .null
    let path := updateFilePath updateId
    let run := (handleUpdateCommand sha256Hex commandId (.obj fields) env w).2.events.drop
      w.events.length
    ((∀ e ∈ run, ¬ e.Gated) ∧ ∃ pre err, run = pre ++ failedPosts commandId updateId err) ∨
    ∃ A S, run = A ++ S ∧ (∀ e ∈ A, ¬ e.Gated) ∧ readFrom path A = writtenTo path A ∧
      checksum.isStr (sha256Hex (writtenTo path A)) ∧
      ∀ e ∈ S, e.readBack? path = none ∧ e.written? path = none := by
  intro updateId checksum path run
  obtain ⟨-, D, hD, -, -, hcases⟩ := handleUpdateCommand_cases sha256Hex commandId fields env w
  have hDg : ∀ e ∈ D, ¬ e.Gated ∧ e.readBack? path = none := fun e he => (hD e he).not_gated
  rcases hcases with ⟨err, hrun⟩ | ⟨V, hV, ⟨err, hrun⟩ | ⟨hread, hsum, hrest⟩⟩
  · refine .inl ⟨fun e he => ?_, .updateStatus updateId ⟨"downloading", some 0, none⟩ :: D, err,
      by simp [run, hrun]⟩
    simp only [run, hrun, List.append_assoc, List.drop_left, List.cons_append, List.mem_cons,
      List.mem_append] at he
    rcases he with rfl | he | he
    · simp [Event.Gated]
    · exact (hDg e he).1
    · exact (failedPosts_inert path commandId updateId err e he).1
  all_goals have hVg : ∀ e ∈ V, ¬ e.Gated ∧ e.written? path = none :=
    fun e he => (hV e he).not_gated
  · refine .inl ⟨fun e he => ?_, .updateStatus updateId ⟨"downloading", some 0, none⟩ :: D ++
      [.updateStatus updateId ⟨"verifying", some 50, none⟩] ++ V, err, by simp [run, hrun]⟩
    simp only [run, hrun, List.append_assoc, List.drop_left, List.cons_append, List.mem_cons,
      List.mem_append] at he
    rcases he with rfl | he | rfl | he | he
    · simp [Event.Gated]
    · exact (hDg e he).1
    · simp [Event.Gated]
    · exact (hVg e he).1
    · exact (failedPosts_inert path commandId updateId err e he).1
  · generalize hA : Event.updateStatus updateId ⟨"downloading", some 0, none⟩ :: D ++
      [.updateStatus updateId ⟨"verifying", some 50, none⟩] ++ V = A
    have hAg : ∀ e ∈ A, ¬ e.Gated := by
      simp only [← hA, List.cons_append, List.mem_cons, List.mem_append, List.not_mem_nil,
        or_false]
      rintro e (rfl | (he | rfl) | he)
      · simp [Event.Gated]
      · exact (hDg e he).1
      · simp [Event.Gated]
      · exact (hVg e he).1
    have hAw : writtenTo path A = writtenTo path D := by
      simp [← hA, writtenTo_eq_nil fun e he => (hVg e he).2, Event.written?]
    have hAr : readFrom path A = readFrom path V := by
      simp [← hA, readFrom_eq_nil fun e he => (hDg e he).2, Event.readBack?]
    have hAok := And.intro hAg (And.intro (show readFrom path A = writtenTo path A by
      rw [hAr, hAw, hread]) (show checksum.isStr (sha256Hex (writtenTo path A)) by rwa [hAw]))
    let Ri := Event.updateStatus updateId ⟨"installing", some 75, none⟩
    let completed := [Ri, .install path (.ok ()), .updateStatus updateId ⟨"completed", some 100, none⟩,
      .ack commandId ⟨"completed", none, none⟩]
    rcases hrest with ⟨err, hrun⟩ | ⟨-, hrun⟩ | ⟨-, ⟨c, hrun⟩ | ⟨err, hrun⟩⟩ <;> [
      refine .inr ⟨A, Ri :: .install path (.error err) :: failedPosts commandId updateId err,
        by simp [run, hrun, ← hA, Ri], hAok.1, hAok.2.1, hAok.2.2, ?_⟩;
      refine .inr ⟨A, completed, by simp [run, hrun, ← hA, completed, Ri], hAok.1, hAok.2.1,
        hAok.2.2, ?_⟩;
      refine .inr ⟨A, completed ++ [.reboot false (.ok c)], by simp [run, hrun, ← hA, completed, Ri],
        hAok.1, hAok.2.1, hAok.2.2, ?_⟩;
      refine .inr ⟨A, completed ++ .reboot false (.error err) :: failedPosts commandId updateId err,
        by simp [run, hrun, ← hA, completed, Ri], hAok.1, hAok.2.1, hAok.2.2, ?_⟩] <;>
    -- after the verdict the job only posts, installs and reboots
    simp only [completed, Ri, failedPosts, List.cons_append, List.nil_append, List.mem_cons,
      List.not_mem_nil, or_false, forall_eq_or_imp, forall_eq, Event.readBack?, Event.written?,
      and_self]

/-- The checksum gate.  Wherever the installer runs, the update's reboot is
launched, or `installing` or `completed` is reported or acknowledged, the part
of the job before it has read the whole update file back, the bytes fed to
the hash are the bytes the download wrote, and their digest is the payload's
checksum.  When the digest of what was written is not the checksum, none of
these happens and the job ends by reporting and acknowledging `failed`. -/
theorem install_only_after_checksum_match (commandId : Json) (fields : List (String × Json))
    (env : Env) (w : World) :
    let updateId := (fields.lookup "update_id").getD .null
    let checksum := (fields.lookup "checksum").getD .null
    let path := updateFilePath updateId
    let run := (handleUpdateCommand sha256Hex commandId (.obj fields) env w).2.events.drop
      w.events.length
    (∀ pre e post, run = pre ++ e :: post → e.Gated →
        readFrom path pre = writtenTo path pre ∧ checksum.isStr (sha256Hex (readFrom path pre))) ∧
    (checksum.isStr (sha256Hex (writtenTo path run)) = false →
        (∀ e ∈ run, ¬ e.Gated) ∧ ∃ pre err, run = pre ++ failedPosts commandId updateId err) := by
  dsimp only
  rcases handleUpdateCommand_verdict sha256Hex commandId fields env w with
    ⟨hng, hfail⟩ | ⟨A, S, hrun, hAg, hAr, hAsum, hS⟩
  · exact ⟨fun pre e post h he => absurd he (hng e (by rw [h]; simp)), fun _ => ⟨hng, hfail⟩⟩
  refine ⟨fun pre e post h he => ?_, fun hdiff => ?_⟩
  · obtain ⟨S', rfl, hS'⟩ := prefix_of_gated hAg he (h.symm.trans hrun)
    rw [readFrom_append, writtenTo_append, readFrom_eq_nil fun x hx => (hS x (hS' x hx)).1,
      writtenTo_eq_nil fun x hx => (hS x (hS' x hx)).2]
    simp [hAr, hAsum]
  · rw [hrun, writtenTo_append, writtenTo_eq_nil fun x hx => (hS x hx).2, List.append_nil,
      hAsum] at hdiff
    exact absurd hdiff Bool.noConfusion

/-- The ending of a job that reported `completed` and then `failed`. -/
def failedAfterCompleted : List (String × Option Int) :=
  [("verifying", some 50), ("installing", some 75), ("completed", some 100), ("failed", none)]

/-- The ways an update job can end, as the status and progress of its last
reports. -/
def jobEndings : List (List (String × Option Int)) :=
  [[("failed", none)],
   [("verifying", some 50), ("failed", none)],
   [("verifying", some 50), ("installing", some 75), ("failed", none)],
   [("verifying", some 50), ("installing", some 75), ("completed", some 100)],
   failedAfterCompleted]

/-- The status and progress a report carries. -/
def StatusData.phase (data : StatusData) : String × Option Int := (data.status, data.progress)

/-- The reports of an update job: `downloading` at 0, the download's own
reports, and one of the `jobEndings`; the last ending, a `failed` after
`completed`, only when launching the reboot raised. -/
theorem handleUpdateCommand_reports (commandId : Json) (fields : List (String × Json))
    (env : Env) (w : World) :
    let updateId := (fields.lookup "update_id").getD .null
    let run := (handleUpdateCommand sha256Hex commandId (.obj fields) env w).2.events.drop
      w.events.length
    ∃ D, (∀ e ∈ D, e.DownloadStep updateId) ∧ (progressValues D).Pairwise (· ≤ ·) ∧
      (∀ p ∈ progressValues D, ∃ dl L, env.download (w.events.length + 2) = .ok dl ∧
        dl.totalSize = .ok L ∧ 0 < L ∧ 0 ≤ p ∧ p ≤ downloadProgressDouble dl.byteCount L) ∧
      ∃ tail ∈ jobEndings,
        (reports run).map StatusData.phase =
          ("downloading", some 0) :: (reports D).map StatusData.phase ++ tail ∧
        (tail = failedAfterCompleted → ∃ err, Event.reboot false (.error err) ∈ run) := by
  dsimp only
  obtain ⟨-, D, hD, hsorted, hbound, hcases⟩ :=
    handleUpdateCommand_cases sha256Hex commandId fields env w
  refine ⟨D, hD, hsorted, hbound, ?_⟩
  have hV : ∀ V : List Event, (∀ e ∈ V, e.ReadStep (updateFilePath
      ((fields.lookup "update_id").getD .null))) → reports V = [] := fun V hV =>
    List.filterMap_eq_nil_iff.2 fun e he => (hV e he).report_none
  rcases hcases with ⟨err, hrun⟩ | ⟨V, hVs, ⟨err, hrun⟩ | ⟨-, -, hrest⟩⟩
  · exact ⟨[("failed", none)], by simp [jobEndings],
      by simp [hrun, failedPosts, Event.report?, StatusData.phase], by simp [failedAfterCompleted]⟩
  · exact ⟨[("verifying", some 50), ("failed", none)], by simp [jobEndings],
      by simp [hrun, failedPosts, Event.report?, StatusData.phase, hV V hVs], by simp [failedAfterCompleted]⟩
  rcases hrest with ⟨err, hrun⟩ | ⟨-, hrun⟩ | ⟨-, ⟨c, hrun⟩ | ⟨err, hrun⟩⟩
  · exact ⟨[("verifying", some 50), ("installing", some 75), ("failed", none)], by simp [jobEndings],
      by simp [hrun, failedPosts, Event.report?, StatusData.phase, hV V hVs], by simp [failedAfterCompleted]⟩
  · exact ⟨[("verifying", some 50), ("installing", some 75), ("completed", some 100)],
      by simp [jobEndings], by simp [hrun, Event.report?, StatusData.phase, hV V hVs],
      by simp [failedAfterCompleted]⟩
  · exact ⟨[("verifying", some 50), ("installing", some 75), ("completed", some 100)],
      by simp [jobEndings], by simp [hrun, Event.report?, StatusData.phase, hV V hVs],
      by simp [failedAfterCompleted]⟩
  · exact ⟨failedAfterCompleted, by simp [jobEndings],
      by simp [hrun, failedPosts, Event.report?, StatusData.phase, hV V hVs, failedAfterCompleted],
      fun _ => ⟨err, by simp [hrun]⟩⟩

/-- A payload that is not a mapping makes the job raise at its first
`payload.get`, before it reports or does anything. -/
theorem handleUpdateCommand_not_obj (commandId payload : Json) (env : Env) (w : World)
    (h : ∀ fields, payload ≠ .obj fields) :
    ∃ e, handleUpdateCommand sha256Hex commandId payload env w = (.error e, w) := by
  cases payload <;> first | exact absurd rfl (h _) | exact ⟨_, rfl⟩

end Gate

theorem progressValues_eq_phases (es : List Event) :
    progressValues es = ((reports es).map StatusData.phase).filterMap (·.2) := by
  simp [progressValues, List.filterMap_map, StatusData.phase, Function.comp_def]

/-- Progress that starts at 0, stays in 0..50 while downloading and then only
rises from 50 is non-decreasing. -/
theorem progress_pairwise {PD T : List Int} (hPD : PD.Pairwise (· ≤ ·))
    (hb : ∀ p ∈ PD, 0 ≤ p ∧ p ≤ 50) (hT : T.Pairwise (· ≤ ·)) (h50 : ∀ q ∈ T, 50 ≤ q) :
    (0 :: (PD ++ T)).Pairwise (· ≤ ·) := by
  refine List.pairwise_cons.2 ⟨fun p hp => ?_,
    List.pairwise_append.2 ⟨hPD, hT, fun p hp q hq => Int.le_trans (hb p hp).2 (h50 q hq)⟩⟩
  rcases List.mem_append.1 hp with hp | hp
  · exact (hb p hp).1
  · exact Int.le_trans (by decide) (h50 p hp)

/-- Every ending rises from 50 to at most 100 and reports no `downloading`. -/
theorem jobEndings_progress : ∀ tail ∈ jobEndings,
    (tail.filterMap (·.2)).Pairwise (· ≤ ·) ∧ (∀ q ∈ tail.filterMap (·.2), 50 ≤ q ∧ q ≤ 100) ∧
      ∀ x ∈ tail, x.1 ≠ "downloading" := by
  decide

/-- The progress facts of any phase sequence of the shape
`handleUpdateCommand_reports` gives: non-decreasing, download phases in 0..50,
everything in 0..100. -/
theorem phases_progress {P tail : List (String × Option Int)} (htail : tail ∈ jobEndings)
    (hP : (P.filterMap (·.2)).Pairwise (· ≤ ·)) (hb : ∀ p ∈ P.filterMap (·.2), 0 ≤ p ∧ p ≤ 50) :
    let phases := ("downloading", some 0) :: P ++ tail
    (phases.filterMap (·.2)).Pairwise (· ≤ ·) ∧
      (∀ x ∈ phases, x.1 = "downloading" → ∀ p ∈ x.2, 0 ≤ p ∧ p ≤ 50) ∧
      ∀ p ∈ phases.filterMap (·.2), 0 ≤ p ∧ p ≤ 100 := by
  obtain ⟨hT, hT50, hTdl⟩ := jobEndings_progress tail htail
  simp only [List.cons_append, List.filterMap_cons, List.filterMap_append]
  refine ⟨progress_pairwise hP hb hT fun q hq => (hT50 q hq).1, fun x hx hdl p hp => ?_,
    fun p hp => ?_⟩
  · rcases List.mem_cons.1 hx with rfl | hx
    · cases Option.mem_some_iff.1 hp
      decide
    rcases List.mem_append.1 hx with hx | hx
    · exact hb p (List.mem_filterMap.2 ⟨x, hx, hp⟩)
    · exact absurd hdl (hTdl x hx)
  · rcases List.mem_cons.1 hp with rfl | hp
    · decide
    rcases List.mem_append.1 hp with hp | hp
    · exact ⟨(hb p hp).1, Int.le_trans (hb p hp).2 (by decide)⟩
    · exact ⟨Int.le_trans (by decide) (hT50 p hp).1, (hT50 p hp).2⟩

/-- A device with an empty log and no files. -/
def freshWorld : World := ⟨[], fun _ => none⟩

/-- Collaborators that all succeed: the fleet server answers 200, the update
server streams `chunks` under the advertised length `size`, every file and
installer call returns, and each subprocess answers `proc`. -/
def servingEnv (size : Int) (chunks : List Bytes) (proc : Except PyError Completed) : Env where
  report := fun _ => .ok ⟨200, .ok .null⟩
  http := fun _ => .ok ⟨200, .ok .null⟩
  proc := fun _ => proc
  download := fun _ => .ok ⟨200, .ok size, chunks, .ok ()⟩
  file := fun _ => .ok ()
  install := fun _ => .ok ()

/-- The hex digest of the empty artifact. -/
def emptyDigest : String := "e3b0c44298fc1c149afbf4c8996fb92427ae41e4649b934ca495991b7852b855"

/-- An update payload with the given checksum and reboot flag. -/
def updatePayload (checksum : String) (rebootRequired : Bool) : Json :=
  .obj [("update_id", .str "u1"), ("download_url", .str "u1.bin"), ("checksum", .str checksum),
    ("reboot_required", .bool rebootRequired)]

/-! ## The update state machine -/

/-- The phases of an update, as the spec's state machine names them. -/
inductive UpdatePhase where
  | downloading | verifying | installing | completed | failed
  deriving DecidableEq, Repr

namespace UpdatePhase

/-- The phase a reported status names. -/
def ofStatus : String → Option UpdatePhase
  | "downloading" => some downloading
  | "verifying" => some verifying
  | "installing" => some installing
  | "completed" => some completed
  | "failed" => some failed
  | _ => none

/-- The transitions of the machine: downloading repeats, each phase moves to
the next or to `failed`, and `completed` and `failed` are terminal. -/
def next : UpdatePhase → UpdatePhase → Bool
  | downloading, downloading | downloading, verifying | downloading, failed => true
  | verifying, installing | verifying, failed => true
  | installing, completed | installing, failed => true
  | _, _ => false

/-- `completed` and `failed` end a run. -/
def terminal : UpdatePhase → Bool
  | completed | failed => true
  | _ => false

/-- Whether `statuses`, read from phase `p` on, follow the machine to a
terminal phase. -/
def runsFrom (p : UpdatePhase) : List String → Bool
  | [] => p.terminal
  | s :: rest =>
    match ofStatus s with
    | some q => p.next q && runsFrom q rest
    | none => false

end UpdatePhase

/-- A run of the update state machine: one or more `downloading`, then the
transitions of `UpdatePhase.next` up to a terminal phase. -/
def isUpdateRun : List String → Bool
  | [] => false
  | s :: rest =>
    match UpdatePhase.ofStatus s with
    | some .downloading => UpdatePhase.runsFrom .downloading rest
    | _ => false

theorem runsFrom_downloading_append {ds : List String} (hds : ∀ s ∈ ds, s = "downloading")
    (rest : List String) :
    UpdatePhase.runsFrom .downloading (ds ++ rest) = UpdatePhase.runsFrom .downloading rest := by
  induction ds with
  | nil => rfl
  | cons s ds ih =>
    rw [hds s (List.mem_cons_self s ds)]
    exact ih fun s hs => hds s (List.mem_cons_of_mem _ hs)

/-- Each ending but one completes a machine run; the one that does not is a
machine run followed by `failed`. -/
theorem jobEndings_run : ∀ tail ∈ jobEndings,
    UpdatePhase.runsFrom .downloading (tail.map (·.1)) = true ∨ tail = failedAfterCompleted := by
  decide

section Machine

variable (sha256Hex : Bytes → String)

/-- For every payload mapping and every outcome of the collaborators, the
statuses one job reports are a run of the machine, or a machine run ending in
`completed` followed by `failed`, which only a reboot launch that raised
produces. -/
theorem update_reports_run_unless_reboot_fails (commandId : Json) (fields : List (String × Json))
    (env : Env) (w : World) :
    let run := (handleUpdateCommand sha256Hex commandId (.obj fields) env w).2.events.drop
      w.events.length
    let statuses := (reports run).map (·.status)
    isUpdateRun statuses = true ∨
      ∃ pre, statuses = pre ++ ["completed", "failed"] ∧ isUpdateRun (pre ++ ["completed"]) = true ∧
        ∃ err, Event.reboot false (.error err) ∈ run := by
  dsimp only
  obtain ⟨D, hD, -, -, tail, htail, hphases, hreboot⟩ :=
    handleUpdateCommand_reports sha256Hex commandId fields env w
  have hds : ∀ s ∈ (reports D).map (·.status), s = "downloading" := by
    simp only [List.mem_map, reports, List.mem_filterMap]
    rintro _ ⟨data, ⟨e, he, hdata⟩, rfl⟩
    exact (hD e he).status_of_report hdata
  have hstatuses : (reports (List.drop w.events.length
      (handleUpdateCommand sha256Hex commandId (.obj fields) env w).2.events)).map (·.status) =
      "downloading" :: (reports D).map (·.status) ++ tail.map (·.1) := by
    have := congrArg (List.map Prod.fst) hphases
    simpa [StatusData.phase, Function.comp_def] using this
  rw [hstatuses]
  rcases jobEndings_run tail htail with hrun | rfl
  · left
    simpa [isUpdateRun, UpdatePhase.ofStatus, runsFrom_downloading_append hds] using hrun
  · -- the run up to `completed` is a machine run, and `failed` follows it
    refine .inr ⟨"downloading" :: (reports D).map (·.status) ++ ["verifying", "installing"],
      by simp [failedAfterCompleted], ?_, hreboot rfl⟩
    simp only [List.cons_append, List.append_assoc, isUpdateRun, UpdatePhase.ofStatus,
      runsFrom_downloading_append hds]
    decide

end Machine

/-- A failure to launch the reboot command. -/
def rebootLaunchError : PyError := ⟨"FileNotFoundError", "No such file or directory: sudo"⟩

unseal readBlocks in
/-- An update that succeeds and asks for a reboot whose launch raises: the job
reports `failed` after `completed`. -/
theorem update_reports_failed_after_completed :
    (reports (handleUpdateCommand (fun _ => emptyDigest) (.str "c1") (updatePayload emptyDigest true)
        (servingEnv 0 [] (.error rebootLaunchError)) freshWorld).2.events).map (·.status) =
      ["downloading", "verifying", "installing", "completed", "failed"] ∧
    isUpdateRun ["downloading", "verifying", "installing", "completed", "failed"] = false := by
  decide

/-! ## The converse of the gate -/

/-- Collaborators under which an update job from `w` can fail only at the
checksum: every file call and every installer call returns, and the update
server answers the download with `dl`, a success with a readable length whose
stream ends cleanly. -/
structure ServesUpdate (env : Env) (w : World) (dl : Download) : Prop where
  file : ∀ n, env.file n = .ok ()
  download : env.download (w.events.length + 2) = .ok dl
  status : raiseForStatus dl.statusCode = .ok ()
  size : ∃ L, dl.totalSize = .ok L
  streamEnd : dl.streamEnd = .ok ()
  install : ∀ n, env.install n = .ok ()

/-- The comparison the design asks of the checksum: two hex strings equal
ignoring letter case. -/
def sameHexIgnoringCase (a b : String) : Bool :=
  a.toList.map Char.toLower == b.toList.map Char.toLower

section Served

open Agent

variable (sha256Hex : Bytes → String)

/-- A job whose collaborators all succeed gets through the download and the
read-back, and then fails with the checksum error when the payload's checksum
is not the digest of the concatenated chunks, and otherwise reports
`installing`, runs the installer and reports `completed`. -/
theorem handleUpdateCommand_served (commandId : Json) (fields : List (String × Json))
    (env : Env) (w : World) (dl : Download) (hserve : ServesUpdate env w dl) :
    let updateId := (fields.lookup "update_id").getD .null
    let checksum := (fields.lookup "checksum").getD .null
    let report := fun (status : String) (progress : Int) =>
      Event.updateStatus updateId ⟨status, some progress, none⟩
    let run := (handleUpdateCommand sha256Hex commandId (.obj fields) env w).2.events.drop
      w.events.length
    ∃ A, (∀ e ∈ A, ¬ e.Gated) ∧
      (∀ L, dl.totalSize = .ok L → 0 < L → progressValues A = 0 :: chunkProgress L 0 dl.chunks ++ [50]) ∧
      (checksum.isStr (sha256Hex dl.chunks.flatten) = false →
        run = A ++ failedPosts commandId updateId ⟨"ValueError", "Checksum verification failed"⟩) ∧
      (checksum.isStr (sha256Hex dl.chunks.flatten) = true →
        ∃ S, run = A ++ report "installing" 75 :: .install (updateFilePath updateId) (.ok ()) ::
          report "completed" 100 :: S ∧ progressValues S = []) := by
  intro updateId checksum report run
  obtain ⟨hfile, hdl, hstatus, ⟨L, hsize⟩, hend, hinstall⟩ := hserve
  let url := (fields.lookup "download_url").getD .null
  let path := updateFilePath updateId
  obtain ⟨D, hD, hDstep, -⟩ := downloadUpdate_spec url updateId env (w.record (report "downloading" 0))
  obtain ⟨hok, hfiles, hprog⟩ := downloadUpdate_ok url updateId (w := w.record (report "downloading" 0))
    hfile (by simpa using hdl) hstatus hsize hend
  simp only [run, handleUpdateCommand, Json.get_obj, bind_apply, lift_apply, liftM, tryCatch_apply,
    reportUpdateStatus_apply, Option.filter_none]
  rcases hdu : downloadUpdate url updateId env (w.record (report "downloading" 0)) with ⟨r, w2⟩
  simp only [hdu] at hD hok hfiles hprog
  subst hok
  dsimp only
  obtain ⟨V, hV, hVstep, -⟩ :=
    verifyChecksum_spec sha256Hex path checksum env (w2.record (report "verifying" 50))
  have hb := verifyChecksum_ok sha256Hex (w := w2.record (report "verifying" 50)) hfile
    (by simpa using hfiles) checksum
  rcases hvc : verifyChecksum sha256Hex path checksum env (w2.record (report "verifying" 50)) with
    ⟨b, w4⟩
  simp only [hvc] at hV hb
  subst hb
  refine ⟨report "downloading" 0 :: D ++ report "verifying" 50 :: V, ?_, fun L' hL' hpos => ?_,
    fun hsum => ?_, fun hsum => ?_⟩
  · simp only [List.cons_append, List.mem_cons, List.mem_append]
    rintro e (rfl | he | rfl | he)
    · simp [report, Event.Gated]
    · exact (@Event.DownloadStep.not_gated path _ _ (hDstep e he)).1
    · simp [report, Event.Gated]
    · exact (@Event.ReadStep.not_gated path _ _ (hVstep e he)).1
  · obtain rfl := Except.ok.inj (hsize.symm.trans hL')
    have hDp : progressValues D = chunkProgress L 0 dl.chunks := by
      simpa [hD] using hprog hpos
    have hVp : progressValues V = [] :=
      List.filterMap_eq_nil_iff.2 fun data hdata => by
        obtain ⟨e, he, hr⟩ := List.mem_filterMap.1 hdata
        simp [(hVstep e he).report_none] at hr
    simp [report, Event.report?, hDp, hVp]
  · simp [hsum, hV, hD, failedPosts]
  · simp only [hsum, if_true, bind_apply, pure_apply, reportUpdateStatus_apply, installUpdate,
      call_apply, hinstall, acknowledgeCommand_apply, lift_apply, Option.filter_none,
      World.record_events, List.length_append, List.length_singleton]
    let Rc := Event.ack commandId ⟨"completed", none, none⟩
    cases hreboot : ((fields.lookup "reboot_required").getD .null).truthy
    · exact ⟨[Rc], by simp [hreboot, hV, hD, report, Rc], by simp [Rc, Event.report?]⟩
    simp only [if_true, runReboot, bind_apply, call_apply, World.record_events, List.length_append,
      List.length_singleton]
    rcases env.proc (w4.events.length + 1 + 1 + 1 + 1) with e | c
    · exact ⟨Rc :: .reboot false (.error e) :: failedPosts commandId updateId e,
        by simp [hV, hD, report, Rc, failedPosts], by simp [Rc, failedPosts, Event.report?]⟩
    · exact ⟨[Rc, .reboot false (.ok c)], by simp [hV, hD, report, Rc], by simp [Rc, Event.report?]⟩

/-- The converse of the gate, as the code has it: when every collaborator
succeeds, the job runs the installer and reports `completed` exactly when the
payload's checksum is, character for character, the hex digest of the
concatenated chunks. -/
theorem update_completes_iff_checksum_is_digest (commandId : Json)
    (fields : List (String × Json)) (env : Env) (w : World) (dl : Download)
    (hserve : ServesUpdate env w dl) :
    let updateId := (fields.lookup "update_id").getD .null
    let checksum := (fields.lookup "checksum").getD .null
    let run := (handleUpdateCommand sha256Hex commandId (.obj fields) env w).2.events.drop
      w.events.length
    ((Event.install (updateFilePath updateId) (.ok ()) ∈ run ∧
        Event.updateStatus updateId ⟨"completed", some 100, none⟩ ∈ run) ↔
      checksum.isStr (sha256Hex dl.chunks.flatten) = true) ∧
    (checksum.isStr (sha256Hex dl.chunks.flatten) = false →
      ∃ pre, run = pre ++
        failedPosts commandId updateId ⟨"ValueError", "Checksum verification failed"⟩) := by
  intro updateId checksum run
  obtain ⟨A, hA, -, hfail, hpass⟩ :=
    handleUpdateCommand_served sha256Hex commandId fields env w dl hserve
  refine ⟨?_, fun hsum => ⟨A, hfail hsum⟩⟩
  cases hsum : checksum.isStr (sha256Hex dl.chunks.flatten)
  · simp only [Bool.false_eq_true, iff_false, not_and]
    intro hin
    rw [show run = _ from hfail hsum, List.mem_append] at hin
    rcases hin with hin | hin
    · exact absurd trivial (hA _ hin)
    · simp [failedPosts] at hin
  · obtain ⟨S, hS, -⟩ := hpass hsum
    simp [run, hS]

/-- A checksum that is the artifact's digest in another letter case is
rejected even when every collaborator succeeds: the job never runs the
installer, nor reports or acknowledges `installing` or `completed`, and ends
by reporting and acknowledging the checksum error. -/
theorem update_rejects_checksum_in_other_case (commandId : Json)
    (fields : List (String × Json)) (env : Env) (w : World) (dl : Download)
    (hserve : ServesUpdate env w dl) (checksum : String)
    (hchecksum : fields.lookup "checksum" = some (.str checksum))
    (hcase : sameHexIgnoringCase checksum (sha256Hex dl.chunks.flatten) = true ∧
      checksum ≠ sha256Hex dl.chunks.flatten) :
    let updateId := (fields.lookup "update_id").getD .null
    let run := (handleUpdateCommand sha256Hex commandId (.obj fields) env w).2.events.drop
      w.events.length
    (∀ e ∈ run, ¬ e.Gated) ∧
      ∃ pre, run = pre ++
        failedPosts commandId updateId ⟨"ValueError", "Checksum verification failed"⟩ := by
  intro updateId run
  obtain ⟨A, hA, -, hfail, -⟩ :=
    handleUpdateCommand_served sha256Hex commandId fields env w dl hserve
  have hsum : ((fields.lookup "checksum").getD .null).isStr (sha256Hex dl.chunks.flatten) = false := by
    simp [hchecksum, Json.isStr, hcase.2]
  rw [show run = _ from hfail hsum]
  refine ⟨fun e he => ?_, A, rfl⟩
  rcases List.mem_append.1 he with he | he
  · exact hA e he
  · exact (failedPosts_inert "" commandId updateId _ e he).1

/-! ## The progress values -/

/-- The progress values of an update job whose collaborators all succeed,
under a positive advertised length: 0, the progress after each chunk, 50, and
75 and 100 when the checksum is the digest. -/
theorem served_progressValues (commandId : Json) (fields : List (String × Json)) (env : Env)
    (w : World) (dl : Download) (hserve : ServesUpdate env w dl) {L : Int}
    (hL : dl.totalSize = .ok L) (hpos : 0 < L) :
    progressValues ((handleUpdateCommand sha256Hex commandId (.obj fields) env w).2.events.drop
        w.events.length) =
      0 :: chunkProgress L 0 dl.chunks ++ 50 ::
        if ((fields.lookup "checksum").getD .null).isStr (sha256Hex dl.chunks.flatten) then [75, 100]
        else [] := by
  obtain ⟨A, -, hprog, hfail, hpass⟩ :=
    handleUpdateCommand_served sha256Hex commandId fields env w dl hserve
  have hA := hprog L hL hpos
  cases hsum : ((fields.lookup "checksum").getD .null).isStr (sha256Hex dl.chunks.flatten)
  · rw [hfail hsum]
    simp [hA, failedPosts, Event.report?]
  · obtain ⟨S, hS, hSp⟩ := hpass hsum
    rw [hS]
    simp [hA, hSp, Event.report?]

/-- While the download's progress at its last byte is at most 50, the
progress values of an update job never decrease, every `downloading` value
lies in 0..50 and every value in 0..100. -/
theorem update_progress_monotone_within_fifty (commandId payload : Json) (env : Env) (w : World)
    (hwithin : ∀ n dl L, env.download n = .ok dl → dl.totalSize = .ok L → 0 < L →
      downloadProgressDouble dl.byteCount L ≤ 50) :
    let run := (handleUpdateCommand sha256Hex commandId payload env w).2.events.drop
      w.events.length
    (progressValues run).Pairwise (· ≤ ·) ∧
      (∀ x ∈ (reports run).map StatusData.phase, x.1 = "downloading" →
        ∀ p ∈ x.2, 0 ≤ p ∧ p ≤ 50) ∧
      ∀ p ∈ progressValues run, 0 ≤ p ∧ p ≤ 100 := by
  dsimp only
  by_cases hobj : ∃ fields, payload = .obj fields
  swap
  · obtain ⟨e, he⟩ := handleUpdateCommand_not_obj sha256Hex commandId payload env w
      fun f h => hobj ⟨f, h⟩
    simp [he]
  obtain ⟨fields, rfl⟩ := hobj
  obtain ⟨D, -, hsorted, hbound, tail, htail, hphases, -⟩ :=
    handleUpdateCommand_reports sha256Hex commandId fields env w
  have hPD : ∀ p ∈ progressValues D, 0 ≤ p ∧ p ≤ 50 := fun p hp => by
    obtain ⟨dl, L, hdl, hL, hpos, h0, hp⟩ := hbound p hp
    exact ⟨h0, Int.le_trans hp (hwithin _ dl L hdl hL hpos)⟩
  rw [progressValues_eq_phases] at hsorted hPD ⊢
  rw [hphases]
  exact phases_progress htail hsorted hPD

end Served

theorem update_progress_monotone_two_of_two :
    (∀ n dl L, (servingEnv 2 [[1, 2]] (.ok ⟨"", "", 0⟩)).download n = .ok dl →
        dl.totalSize = .ok L → 0 < L → downloadProgressDouble dl.byteCount L ≤ 50) ∧
      let run := (handleUpdateCommand (fun _ => "") (.str "c1") (updatePayload "" false)
        (servingEnv 2 [[1, 2]] (.ok ⟨"", "", 0⟩)) freshWorld).2.events.drop
        freshWorld.events.length
      (progressValues run).Pairwise (· ≤ ·) ∧
        (∀ x ∈ (reports run).map StatusData.phase, x.1 = "downloading" →
          ∀ p ∈ x.2, 0 ≤ p ∧ p ≤ 50) ∧
        ∀ p ∈ progressValues run, 0 ≤ p ∧ p ≤ 100 := by
  have hwithin : ∀ n dl L, (servingEnv 2 [[1, 2]] (.ok ⟨"", "", 0⟩)).download n = .ok dl →
      dl.totalSize = .ok L → 0 < L → downloadProgressDouble dl.byteCount L ≤ 50 := by
    rintro n dl L ⟨⟩ ⟨⟩ -
    exact downloadProgressDouble_le_fifty (by decide) (by decide)
  exact ⟨hwithin, update_progress_monotone_within_fifty (fun _ => "") (.str "c1")
    (updatePayload "" false) _ freshWorld hwithin⟩

/-- The hex digest of three zero bytes. -/
def zeroesDigest : String := "709e80c88487a2411e1ee4dfb9f22a861492d20c4765150c0c794abd70f8147c"

/-- A stream that yields three zero bytes under an advertised length of one,
with the right checksum: the download reports 150, and the job then falls back
to 50. -/
theorem update_progress_overshoots :
    let run := (handleUpdateCommand (fun _ => zeroesDigest) (.str "c1") (updatePayload zeroesDigest false)
      (servingEnv 1 [[0, 0, 0]] (.ok ⟨"", "", 0⟩)) freshWorld).2.events
    progressValues run = [0, 150, 50, 75, 100] ∧ ¬ (progressValues run).Pairwise (· ≤ ·) := by
  have hserve : ServesUpdate (servingEnv 1 [[0, 0, 0]] (.ok ⟨"", "", 0⟩)) freshWorld
      ⟨200, .ok 1, [[0, 0, 0]], .ok ()⟩ := ⟨fun _ => rfl, rfl, rfl, ⟨1, rfl⟩, rfl, fun _ => rfl⟩
  have h150 : downloadProgressDouble 3 1 = 150 := by
    have h₃ : roundDouble 3 = 3 := by simpa using roundDouble_natCast (n := 3) (by norm_num)
    have h₁₅₀ : roundDouble 150 = 150 := by simpa using roundDouble_natCast (n := 150) (by norm_num)
    norm_num [downloadProgressDouble, h₃, h₁₅₀]
  have hrun := served_progressValues (fun _ => zeroesDigest) (.str "c1") [("update_id", .str "u1"),
    ("download_url", .str "u1.bin"), ("checksum", .str zeroesDigest), ("reboot_required", .bool false)]
    _ freshWorld _ hserve rfl (by decide)
  have hvalues : progressValues (handleUpdateCommand (fun _ => zeroesDigest) (.str "c1")
      (updatePayload zeroesDigest false) (servingEnv 1 [[0, 0, 0]] (.ok ⟨"", "", 0⟩))
      freshWorld).2.events = [0, 150, 50, 75, 100] := by
    simpa [updatePayload, freshWorld, chunkProgress, h150] using hrun
  exact ⟨hvalues, by rw [hvalues]; decide⟩

theorem update_completes_iff_checksum_is_digest_empty :
    ServesUpdate (servingEnv 0 [] (.ok ⟨"", "", 0⟩)) freshWorld ⟨200, .ok 0, [], .ok ()⟩ ∧
      let fields : List (String × Json) := [("update_id", .str "u1"),
        ("download_url", .str "u1.bin"), ("checksum", .str emptyDigest),
        ("reboot_required", .bool false)]
      let run := (handleUpdateCommand (fun _ => emptyDigest) (.str "c1") (.obj fields)
        (servingEnv 0 [] (.ok ⟨"", "", 0⟩)) freshWorld).2.events.drop freshWorld.events.length
      ((Event.install (updateFilePath (.str "u1")) (.ok ()) ∈ run ∧
          Event.updateStatus (.str "u1") ⟨"completed", some 100, none⟩ ∈ run) ↔
        (Json.str emptyDigest).isStr emptyDigest = true) ∧
      ((Json.str emptyDigest).isStr emptyDigest = false →
        ∃ pre, run = pre ++
          failedPosts (.str "c1") (.str "u1") ⟨"ValueError", "Checksum verification failed"⟩) := by
  have hserve : ServesUpdate (servingEnv 0 [] (.ok ⟨"", "", 0⟩)) freshWorld
      ⟨200, .ok 0, [], .ok ()⟩ := ⟨fun _ => rfl, rfl, rfl, ⟨0, rfl⟩, rfl, fun _ => rfl⟩
  exact ⟨hserve, update_completes_iff_checksum_is_digest (fun _ => emptyDigest) (.str "c1") _ _
    freshWorld _ hserve⟩

theorem update_rejects_checksum_in_other_case_uppercase :
    ServesUpdate (servingEnv 0 [] (.ok ⟨"", "", 0⟩)) freshWorld ⟨200, .ok 0, [], .ok ()⟩ ∧
      let upper := "E3B0C44298FC1C149AFBF4C8996FB92427AE41E4649B934CA495991B7852B855"
      let fields : List (String × Json) := [("update_id", .str "u1"),
        ("download_url", .str "u1.bin"), ("checksum", .str upper), ("reboot_required", .bool false)]
      fields.lookup "checksum" = some (.str upper) ∧
      (sameHexIgnoringCase upper emptyDigest = true ∧ upper ≠ emptyDigest) ∧
      let run := (handleUpdateCommand (fun _ => emptyDigest) (.str "c1") (.obj fields)
        (servingEnv 0 [] (.ok ⟨"", "", 0⟩)) freshWorld).2.events.drop freshWorld.events.length
      (∀ e ∈ run, ¬ e.Gated) ∧
        ∃ pre, run = pre ++
          failedPosts (.str "c1") (.str "u1") ⟨"ValueError", "Checksum verification failed"⟩ := by
  have hserve : ServesUpdate (servingEnv 0 [] (.ok ⟨"", "", 0⟩)) freshWorld
      ⟨200, .ok 0, [], .ok ()⟩ := ⟨fun _ => rfl, rfl, rfl, ⟨0, rfl⟩, rfl, fun _ => rfl⟩
  have hcase : sameHexIgnoringCase "E3B0C44298FC1C149AFBF4C8996FB92427AE41E4649B934CA495991B7852B855"
      emptyDigest = true ∧
      "E3B0C44298FC1C149AFBF4C8996FB92427AE41E4649B934CA495991B7852B855" ≠ emptyDigest := by
    decide
  exact ⟨hserve, rfl, hcase, update_rejects_checksum_in_other_case (fun _ => emptyDigest) (.str "c1")
    _ _ freshWorld _ hserve _ rfl hcase⟩

end FleetdAgent
