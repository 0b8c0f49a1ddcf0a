import FleetdAgent.Startup

/-!
# The credentials file across restarts

`enroll` hands the enrollment answer to `_save_credentials`, which writes
`~/.fleetd/credentials.json`, and every later `start()` first tries
`_load_credentials` on that file.  `FleetdAgent.Startup` takes the file as
what `json.load` makes of it, and the save by its outcome only.  Here the save
has its effect on the file (`saveCredentials`), `enroll` calls it
(`enrollSaving`), and a restart (`boot`) is `start()` up to
`self.running = True` on the file the previous start left.  A record that
`json.dump` wrote completely is what `json.load` reads back.

`boot` refines `startIdentity`: it runs with the identity `startIdentity`
gives for the outcome the save has (`boot_fst`).  Over every sequence of
restarts (`boots`), whatever the server answers and however the save's steps
fail:
* a file holding a record with both fields is never rewritten, and every
  start runs with that record's identity;
* an enrollment whose save got through `json.dump` and the close of the file
  leaves such a record, also when `os.chmod` then raises and that `start()`
  returns `False`;
* a save that failed once `open` had truncated the file, in `json.dump` or in
  the close that flushes what it wrote (a full disk fails there), leaves a
  file `json.load` rejects; while the server answers 409 to the enrollments
  that follow, the file stays so, and every start runs with the configured
  token, which `main` leaves `None`.
-/

namespace FleetdAgent

/-- What the steps of one `_save_credentials` call do: `os.makedirs`,
`open(credentials_file, 'w')`, `json.dump`, the close that ends the `with`
block, and `os.chmod`; what `datetime.utcnow().isoformat()` returns; and what
`json.load` raises on the file a failed save leaves. -/
structure SaveOutcomes where
  makeDirs : Except PyError Unit
  openWrite : Except PyError Unit
  /-- `json.dump`, which writes into the file object's buffer -/
  dump : Except PyError Unit
  /-- the close at the end of the `with` block, which flushes the buffer to
  the disk; it runs also when the body raised, and its exception replaces the
  body's -/
  close : Except PyError Unit
  chmod : Except PyError Unit
  enrolledAt : String
  truncated : PyError

/-- The dictionary `_save_credentials` dumps. -/
def credentialsRecord (enrollmentData : Json) (enrolledAt : String) : Except PyError Json := do
  let deviceId ← enrollmentData.getItem "device_id"
  let deviceToken ← enrollmentData.getItem "device_token"
  let fleetId ← enrollmentData.get "fleet_id" .null
  pure (.obj [("device_id", deviceId), ("device_token", deviceToken), ("fleet_id", fleetId),
    ("enrolled_at", .str enrolledAt)])

/-- `_save_credentials(enrollment_data)`: its outcome, and the credentials
file after it as `json.load` reads it.  `open(..., 'w')` truncates the file,
and the record reaches the disk only when the close flushes it, so a failure
of the body or of the close leaves a file `json.load` rejects; a body and a
close that return leave the record, also when `os.chmod` then raises. -/
def saveCredentials (o : SaveOutcomes) (enrollmentData : Json)
    (file : Option (Except PyError Json)) : Except PyError Unit × Option (Except PyError Json) :=
  match o.makeDirs, o.openWrite with
  | .error e, _ | .ok (), .error e => (.error e, file)
  | .ok (), .ok () =>
    let body : Except PyError Json := do
      let record ← credentialsRecord enrollmentData o.enrolledAt
      o.dump
      pure record
    match body, o.close with
    | .ok record, .ok () => (o.chmod, some (.ok record))
    | .error e, .ok () | _, .error e => (.error e, some (.error o.truncated))

/-- `enroll`, with its call to `_save_credentials` on the credentials file:
what `enroll` returns and the identity after it, and the file after it. -/
def enrollSaving (answer : Except PyError Response) (o : SaveOutcomes) (s : Identity)
    (file : Option (Except PyError Json)) : (Bool × Identity) × Option (Except PyError Json) :=
  match answer with
  | .error _ => ((false, s), file)
  | .ok response =>
    if response.statusCode = 409 then ((true, s), file)
    else
      match raiseForStatus response.statusCode >>= fun _ => response.json with
      | .error _ => ((false, s), file)
      | .ok body =>
        match body.getItem "device_id" with
        | .error _ => ((false, s), file)
        | .ok deviceId =>
          match body.getItem "device_token" with
          | .error _ => ((false, { s with deviceId := deviceId }), file)
          | .ok deviceToken =>
            match saveCredentials o body file with
            | (.error _, file') => ((false, ⟨deviceId, deviceToken, some deviceToken⟩), file')
            | (.ok (), file') => ((true, ⟨deviceId, deviceToken, some deviceToken⟩), file')

/-- `start()` up to `self.running = True`, on the credentials file the
previous start left: the identity the duties run with (`none` when `start()`
returns `False`), and the file after it. -/
def boot (configToken : Json) (answer : Except PyError Response) (o : SaveOutcomes)
    (file : Option (Except PyError Json)) : Option Identity × Option (Except PyError Json) :=
  let (loaded, s) := loadCredentials file (Identity.init configToken)
  if loaded then (some s, file)
  else
    let ((enrolled, s), file') := enrollSaving answer o s file
    (if enrolled then some s else none, file')

/-- Restarts one after another, each with the server's answer to its
enrollment and the outcomes of its save: the identity each start runs with,
and the file after the last. -/
def boots (configToken : Json) :
    List (Except PyError Response × SaveOutcomes) → Option (Except PyError Json) →
      List (Option Identity) × Option (Except PyError Json)
  | [], file => ([], file)
  | (answer, o) :: restarts, file =>
    let (s, file') := boot configToken answer o file
    let (ss, file'') := boots configToken restarts file'
    (s :: ss, file'')

/-! ## The refinement of `startIdentity` -/

/-- What `_save_credentials` returns when `enroll` calls it, on the decoded
enrollment answer.  When `enroll` stops before the call, `enroll` does not
read it. -/
def enrollSaved (answer : Except PyError Response) (o : SaveOutcomes)
    (file : Option (Except PyError Json)) : Except PyError Unit :=
  match answer >>= fun response => raiseForStatus response.statusCode >>= fun _ => response.json with
  | .ok body => (saveCredentials o body file).1
  | .error e => .error e

theorem enrollSaving_fst (answer : Except PyError Response) (o : SaveOutcomes) (s : Identity)
    (file : Option (Except PyError Json)) :
    (enrollSaving answer o s file).1 = enroll answer (enrollSaved answer o file) s := by
  rcases answer with e | response
  · rfl
  by_cases h409 : response.statusCode = 409
  · simp only [enrollSaving, enroll, h409, if_true]
  rcases hb : raiseForStatus response.statusCode >>= fun _ => response.json with e | body
  · simp only [enrollSaving, enroll, h409, if_false, hb]
  have hsaved : enrollSaved (.ok response) o file = (saveCredentials o body file).1 := by
    show (match raiseForStatus response.statusCode >>= (fun _ => response.json) with
      | .ok body => (saveCredentials o body file).1
      | .error e => .error e) = _
    rw [hb]
  simp only [enrollSaving, enroll, h409, if_false, hb, hsaved]
  rcases body.getItem "device_id" with _ | deviceId
  · rfl
  rcases body.getItem "device_token" with _ | deviceToken
  · rfl
  rcases saveCredentials o body file with ⟨_ | ⟨⟩, file'⟩ <;> rfl

/-- A restart runs with the identity `startIdentity` gives, for the outcome
`_save_credentials` has. -/
theorem boot_fst (configToken : Json) (answer : Except PyError Response) (o : SaveOutcomes)
    (file : Option (Except PyError Json)) :
    (boot configToken answer o file).1 =
      startIdentity configToken file answer (enrollSaved answer o file) := by
  simp only [boot, startIdentity]
  rcases loadCredentials file (Identity.init configToken) with ⟨_ | _, s⟩
  · rw [← enrollSaving_fst]
    rcases enrollSaving answer o s file with ⟨⟨_ | _, s'⟩, file'⟩ <;> rfl
  · rfl

/-! ## Restarts -/

/-- The identity `_load_credentials` takes from a file that holds a record
with both fields. -/
def storedIdentity : Option (Except PyError Json) → Option Identity
  | some (.ok credentials) =>
    match credentials.getItem "device_id", credentials.getItem "device_token" with
    | .ok deviceId, .ok deviceToken => some ⟨deviceId, deviceToken, some deviceToken⟩
    | _, _ => none
  | _ => none

/-- An enrollment answer `enroll` stores: a reply other than 409 that
`raise_for_status` lets through, whose body holds both fields. -/
structure IssuesCredentials (answer : Except PyError Response) (body deviceId deviceToken : Json) :
    Prop where
  reply : ∃ response, answer = .ok response ∧ response.statusCode ≠ 409 ∧
    raiseForStatus response.statusCode = .ok () ∧ response.json = .ok body
  deviceId : body.getItem "device_id" = .ok deviceId
  deviceToken : body.getItem "device_token" = .ok deviceToken

/-- A load succeeds exactly on a file with a stored identity, and takes that
identity. -/
theorem loadCredentials_stored (file : Option (Except PyError Json)) (s : Identity) :
    match storedIdentity file with
    | some s' => loadCredentials file s = (true, s')
    | none => (loadCredentials file s).1 = false := by
  rcases file with _ | (_ | credentials)
  · rfl
  · rfl
  simp only [storedIdentity, loadCredentials]
  rcases credentials.getItem "device_id" with _ | deviceId
  · rfl
  rcases credentials.getItem "device_token" with _ | deviceToken <;> rfl

theorem loadCredentials_of_stored {file : Option (Except PyError Json)} {s' : Identity}
    (h : storedIdentity file = some s') (s : Identity) : loadCredentials file s = (true, s') := by
  simpa only [h] using loadCredentials_stored file s

theorem loadCredentials_fst_of_not_stored {file : Option (Except PyError Json)}
    (h : storedIdentity file = none) (s : Identity) : (loadCredentials file s).1 = false := by
  simpa only [h] using loadCredentials_stored file s

theorem boot_of_stored {file : Option (Except PyError Json)} {s : Identity}
    (h : storedIdentity file = some s) (configToken : Json) (answer : Except PyError Response)
    (o : SaveOutcomes) : boot configToken answer o file = (some s, file) := by
  simp only [boot, loadCredentials_of_stored h, if_true]

/-- A start that cannot load the file enrolls, from what the failed load left. -/
theorem boot_of_not_stored {file : Option (Except PyError Json)} (h : storedIdentity file = none)
    (configToken : Json) (answer : Except PyError Response) (o : SaveOutcomes) :
    boot configToken answer o file =
      let r := enrollSaving answer o (loadCredentials file (Identity.init configToken)).2 file
      (if r.1.1 then some r.1.2 else none, r.2) := by
  have hload := loadCredentials_fst_of_not_stored h (Identity.init configToken)
  simp only [boot]
  rcases hL : loadCredentials file (Identity.init configToken) with ⟨_ | _, s⟩
  · rfl
  · simp [hL] at hload

/-- An enrollment whose answer carries both fields stores them, and saves the
answer; it returns as the save does. -/
theorem enrollSaving_issued {answer : Except PyError Response} {body deviceId deviceToken : Json}
    (h : IssuesCredentials answer body deviceId deviceToken) (o : SaveOutcomes) (s : Identity)
    (file : Option (Except PyError Json)) :
    enrollSaving answer o s file = (((saveCredentials o body file).1.toBool,
      ⟨deviceId, deviceToken, some deviceToken⟩), (saveCredentials o body file).2) := by
  obtain ⟨response, rfl, h409, hstatus, hjson⟩ := h.reply
  have hb : (raiseForStatus response.statusCode >>= fun _ => response.json) = .ok body := by
    rw [hstatus, hjson]
    rfl
  simp only [enrollSaving, h409, if_false, hb, h.deviceId, h.deviceToken]
  rcases saveCredentials o body file with ⟨_ | ⟨⟩, file'⟩ <;> rfl

/-- A save that gets through `json.dump` and the close leaves the record of
the answer, and returns as `os.chmod` does. -/
theorem saveCredentials_dumped {o : SaveOutcomes} {body deviceId deviceToken : Json}
    (hdirs : o.makeDirs = .ok ()) (hopen : o.openWrite = .ok ()) (hdump : o.dump = .ok ())
    (hclose : o.close = .ok ()) (hid : body.getItem "device_id" = .ok deviceId)
    (htok : body.getItem "device_token" = .ok deviceToken) (file : Option (Except PyError Json)) :
    (saveCredentials o body file).1 = o.chmod ∧
      storedIdentity (saveCredentials o body file).2 = some ⟨deviceId, deviceToken, some deviceToken⟩ := by
  obtain ⟨fields, rfl⟩ : ∃ fields, body = .obj fields := by
    cases body <;> first | exact ⟨_, rfl⟩ | cases hid
  simp only [saveCredentials, hdirs, hopen, hdump, hclose, credentialsRecord, bind, Except.bind, hid,
    htok, Json.get_obj, pure, Except.pure]
  exact ⟨trivial, rfl⟩

/-- A save whose `json.dump` or close fails after `open` truncated the file
leaves a file that `json.load` rejects. -/
theorem saveCredentials_truncated {o : SaveOutcomes} (hdirs : o.makeDirs = .ok ())
    (hopen : o.openWrite = .ok ()) (h : o.dump.toBool = false ∨ o.close.toBool = false)
    (body : Json) (file : Option (Except PyError Json)) :
    (saveCredentials o body file).1.toBool = false ∧
      (saveCredentials o body file).2 = some (.error o.truncated) := by
  simp only [saveCredentials, hdirs, hopen]
  rcases hclose : o.close with e | ⟨⟩
  · rcases credentialsRecord body o.enrolledAt >>= fun record => o.dump >>= fun _ => pure record with
      _ | _ <;> exact ⟨rfl, rfl⟩
  rcases hdump : o.dump with e | ⟨⟩
  · rcases credentialsRecord body o.enrolledAt with _ | _ <;> exact ⟨rfl, rfl⟩
  · simp [hdump, hclose, Except.toBool] at h

/-- A save whose `os.makedirs` or `open` raised leaves the file as it was. -/
theorem saveCredentials_not_opened {o : SaveOutcomes}
    (h : o.makeDirs.toBool = false ∨ o.openWrite.toBool = false) (body : Json)
    (file : Option (Except PyError Json)) :
    (saveCredentials o body file).1.toBool = false ∧ (saveCredentials o body file).2 = file := by
  simp only [saveCredentials]
  rcases hd : o.makeDirs with _ | ⟨⟩
  · exact ⟨rfl, rfl⟩
  rcases ho : o.openWrite with _ | ⟨⟩
  · exact ⟨rfl, rfl⟩
  simp [hd, ho, Except.toBool] at h

/-- A start that cannot load the file and enrolls with an answer that carries
credentials runs exactly when the save succeeded, and leaves the file the save
leaves. -/
theorem boot_issued {file : Option (Except PyError Json)} (hfile : storedIdentity file = none)
    {answer : Except PyError Response} {body deviceId deviceToken : Json}
    (hissued : IssuesCredentials answer body deviceId deviceToken) (configToken : Json)
    (o : SaveOutcomes) :
    boot configToken answer o file =
      (if (saveCredentials o body file).1.toBool then some ⟨deviceId, deviceToken, some deviceToken⟩
        else none, (saveCredentials o body file).2) := by
  rw [boot_of_not_stored hfile, enrollSaving_issued hissued]

/-- A file that `json.load` cannot read, or no file, fails to load and leaves
the identity as it was. -/
theorem loadCredentials_unreadable {file : Option (Except PyError Json)}
    (hfile : ∀ credentials, file ≠ some (.ok credentials)) (s : Identity) :
    loadCredentials file s = (false, s) := by
  rcases file with _ | (_ | credentials)
  · rfl
  · rfl
  · exact absurd rfl (hfile credentials)

/-- Once the credentials file holds a record with both fields, every later
start runs with that record's identity, whatever the server would answer to
an enrollment and whatever a save would do, and no start rewrites the file. -/
theorem stored_credentials_survive_restarts {file : Option (Except PyError Json)} {s : Identity}
    (h : storedIdentity file = some s) (configToken : Json) :
    ∀ restarts : List (Except PyError Response × SaveOutcomes),
      boots configToken restarts file = (restarts.map fun _ => some s, file)
  | [] => rfl
  | (answer, o) :: restarts => by
    simp only [boots, boot_of_stored h, stored_credentials_survive_restarts h configToken restarts,
      List.map_cons]

theorem stored_credentials_survive_restarts_d1 :
    let file : Option (Except PyError Json) :=
      some (.ok (.obj [("device_id", .str "d1"), ("device_token", .str "t1")]))
    storedIdentity file = some ⟨.str "d1", .str "t1", some (.str "t1")⟩ ∧
      ∀ restarts : List (Except PyError Response × SaveOutcomes),
        boots .null restarts file =
          (restarts.map fun _ => some ⟨.str "d1", .str "t1", some (.str "t1")⟩, file) := by
  intro file
  have h : storedIdentity file = some ⟨.str "d1", .str "t1", some (.str "t1")⟩ := rfl
  exact ⟨h, stored_credentials_survive_restarts h .null⟩

/-- An enrollment answer that issues device `d1` the token `t1`. -/
def issuingAnswer : Except PyError Response :=
  .ok ⟨201, .ok (.obj [("device_id", .str "d1"), ("device_token", .str "t1")])⟩

/-- A save on a full disk: the directory and the file open, `json.dump`
fills the file object's buffer, and the close that flushes it raises. -/
def diskFullSave : SaveOutcomes where
  makeDirs := .ok ()
  openWrite := .ok ()
  dump := .ok ()
  close := .error ⟨"OSError", "[Errno 28] No space left on device"⟩
  chmod := .ok ()
  enrolledAt := "2024-01-01T00:00:00"
  truncated := ⟨"JSONDecodeError", "Expecting value: line 1 column 1 (char 0)"⟩

/-- From a credentials file that `json.load` cannot read, or none at all,
while the server answers every enrollment with 409, no start writes the file
and every start runs with the configured token alone; `main` configures none,
so the duties then send no `X-Device-Token` header. -/
theorem unreadable_credentials_never_recover (configToken : Json)
    {file : Option (Except PyError Json)} (hfile : ∀ credentials, file ≠ some (.ok credentials)) :
    ∀ restarts : List (Except PyError Response × SaveOutcomes),
      (∀ x ∈ restarts, ∃ response, x.1 = .ok response ∧ response.statusCode = 409) →
      boots configToken restarts file = (restarts.map fun _ => some (Identity.init configToken), file)
  | [], _ => rfl
  | (answer, o) :: restarts, h409 => by
    obtain ⟨response, rfl, hconflict⟩ := h409 (answer, o) (List.mem_cons_self _ _)
    have hboot : boot configToken (.ok response) o file = (some (Identity.init configToken), file) := by
      simp only [boot, loadCredentials_unreadable hfile, enrollSaving, hconflict, if_true,
        Bool.false_eq_true, if_false]
    simp only [boots, hboot, List.map_cons, unreadable_credentials_never_recover configToken hfile
      restarts fun x hx => h409 x (List.mem_cons_of_mem _ hx)]

theorem unreadable_credentials_never_recover_after_full_disk :
    let file : Option (Except PyError Json) := some (.error diskFullSave.truncated)
    let restarts : List (Except PyError Response × SaveOutcomes) :=
      [(.ok ⟨409, .ok .null⟩, diskFullSave), (.ok ⟨409, .ok .null⟩, diskFullSave)]
    (∀ credentials, file ≠ some (.ok credentials)) ∧
      (∀ x ∈ restarts, ∃ response, x.1 = .ok response ∧ response.statusCode = 409) ∧
      boots .null restarts file = (restarts.map fun _ => some (Identity.init .null), file) := by
  intro file restarts
  have hfile : ∀ credentials, file ≠ some (.ok credentials) := fun _ => by simp [file]
  have h409 : ∀ x ∈ restarts, ∃ response, x.1 = .ok response ∧ response.statusCode = 409 := by
    simp only [restarts, List.mem_cons, List.mem_singleton, List.not_mem_nil, or_false]
    rintro x (rfl | rfl) <;> exact ⟨_, rfl, rfl⟩
  exact ⟨hfile, h409, unreadable_credentials_never_recover .null hfile restarts h409⟩

end FleetdAgent
