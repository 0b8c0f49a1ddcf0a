import FleetdAgent.Agent
import FleetdAgent.FloatProgress

/-!
# The over-the-air update

`_handle_update_command` drives one update job: it reports `downloading`,
streams the artifact to `~/.fleetd/updates/{update_id}.bin` while reporting
progress, reports `verifying`, reads the file back in 4096-byte blocks to hash
it, compares the hex digest with the payload's `checksum`, and only then
reports `installing`, runs the installer, reports `completed`, acknowledges
the command and, when asked, reboots.  Any exception on the way lands in one
handler that reports `failed` and acknowledges `failed`.

The SHA-256 function is `hashlib`'s, not the agent's: it is a parameter
`sha256Hex` here.  A `hashlib` hash object fed blocks by `update` digests the
concatenation of the blocks, so the model keeps the bytes fed so far and
applies `sha256Hex` to them at `hexdigest()`.

`_install_update` is a placeholder in the source that only logs; deployments
replace it with their own installer.  It is modelled as a call answered by
`Env.install`, which covers the placeholder (an installer that always
succeeds) and every replacement.
-/

namespace FleetdAgent

open Agent

/-- `subprocess.run(['sudo', 'reboot'], check=check)`: a launch failure
raises, and with `check` so does a non-zero exit. -/
def runReboot (check : Bool) : Agent Unit := do
  let completed ← call Env.proc (.reboot check)
  if check ∧ completed.returncode ≠ 0 then
    throw ⟨"CalledProcessError", "Command '['sudo', 'reboot']' returned non-zero exit status " ++
      toString completed.returncode ++ "."⟩

/-- `os.makedirs(path, exist_ok=True)`. -/
def makeDirs (path : String) : Agent Unit := call Env.file (.makeDirs path)

/-- `requests.get(url, stream=True)`. -/
def requestsGet (url : Json) : Agent Download := call Env.download (.download url)

/-- `open(path, 'wb')`: creates the file, or empties it. -/
def openWrite (path : String) : Agent Unit := fun env w =>
  match env.file w.events.length with
  | .ok () => (.ok (), (w.record (.openWrite path (.ok ()))).setFile path [])
  | .error e => (.error e, w.record (.openWrite path (.error e)))

/-- `f.write(chunk)` on a file opened for writing: appends the chunk. -/
def writeFile (path : String) (chunk : Bytes) : Agent Unit := fun env w =>
  match env.file w.events.length with
  | .ok () => (.ok (), (w.record (.write path chunk (.ok ()))).setFile path
      ((w.files path).getD [] ++ chunk))
  | .error e => (.error e, w.record (.write path chunk (.error e)))

/-- The `FileNotFoundError` of opening a missing file. -/
def fileNotFound (path : String) : PyError :=
  ⟨"FileNotFoundError", "[Errno 2] No such file or directory: '" ++ path ++ "'"⟩

/-- `open(path, 'rb')`: the contents the open file will read. -/
def openRead (path : String) : Agent Bytes := fun env w =>
  match env.file w.events.length, w.files path with
  | .ok (), some contents => (.ok contents, w.record (.openRead path (.ok ())))
  | .ok (), none => (.error (fileNotFound path), w.record (.openRead path (.error (fileNotFound path))))
  | .error e, _ => (.error e, w.record (.openRead path (.error e)))

/-- `f.read(4096)` returning `block`. -/
def readBlock (path : String) (block : Bytes) : Agent Unit := call Env.file (.read path block)

/-- `_install_update(update_file)`. -/
def installUpdate (updateFile : String) : Agent Unit := call Env.install (.install updateFile)

/-- The directory `_download_update` writes to. -/
def updateDir : String := "~/.fleetd/updates"

/-- `os.path.join(update_dir, f"{update_id}.bin")`. -/
def updateFilePath (updateId : Json) : String := updateDir ++ "/" ++ updateId.toStr ++ ".bin"

/-- The body of `for chunk in r.iter_content(chunk_size=8192)`: write the
chunk, count it, and report progress when the total size is known. -/
def writeChunks (updateFile : String) (updateId : Json) (totalSize : Int) :
    Nat → List Bytes → Agent Unit
  | _, [] => pure ()
  | downloaded, chunk :: rest => do
    writeFile updateFile chunk
    if totalSize > 0 then
      reportUpdateStatus updateId "downloading"
        (some (downloadProgressDouble (downloaded + chunk.length) totalSize)) none
    writeChunks updateFile updateId totalSize (downloaded + chunk.length) rest

/-- `_download_update`: stream the artifact into its file. -/
def downloadUpdate (url updateId : Json) : Agent String := do
  makeDirs updateDir
  let updateFile := updateFilePath updateId
  let r ← requestsGet url
  raiseForStatus r.statusCode
  let totalSize ← r.totalSize
  openWrite updateFile
  writeChunks updateFile updateId totalSize 0 r.chunks
  r.streamEnd
  return updateFile

/-- `for byte_block in iter(lambda: f.read(4096), b""): sha256_hash.update(byte_block)`,
over what is left to read of the open file; `hashed` is what the hash object
has been fed. -/
def readBlocks (filePath : String) (rest hashed : Bytes) : Agent Bytes := do
  readBlock filePath (rest.take 4096)
  if rest.take 4096 = [] then pure hashed
  else readBlocks filePath (rest.drop 4096) (hashed ++ rest.take 4096)
termination_by rest.length
decreasing_by
  simp_wf
  cases rest with
  | nil => simp_all
  | cons b bs => simp only [List.length_drop, List.length_cons]; omega

section Checksum

variable (sha256Hex : Bytes → String)

/-- `_verify_checksum`: hash the file as read back and compare the hex digest
with the expected checksum. -/
def verifyChecksum (filePath : String) (expectedChecksum : Json) : Agent Bool := do
  let contents ← openRead filePath
  let hashed ← readBlocks filePath contents []
  return expectedChecksum.isStr (sha256Hex hashed)

/-- `_handle_update_command`. -/
def handleUpdateCommand (commandId payload : Json) : Agent Unit := do
  let updateId ← payload.get "update_id" .null
  let updateUrl ← payload.get "download_url" .null
  let checksum ← payload.get "checksum" .null
  try
    reportUpdateStatus updateId "downloading" (some 0) none
    let updateFile ← downloadUpdate updateUrl updateId
    reportUpdateStatus updateId "verifying" (some 50) none
    unless (← verifyChecksum sha256Hex updateFile checksum) do
      throw ⟨"ValueError", "Checksum verification failed"⟩
    reportUpdateStatus updateId "installing" (some 75) none
    installUpdate updateFile
    reportUpdateStatus updateId "completed" (some 100) none
    acknowledgeCommand commandId "completed" none none
    if (← payload.get "reboot_required" .null).truthy then
      runReboot false
  catch e =>
    reportUpdateStatus updateId "failed" none (some e.text)
    acknowledgeCommand commandId "failed" none (some e.text)

end Checksum

end FleetdAgent
