import FleetdAgent.Agent

/-!
# Startup and the device credential

`start()` loads the stored credentials or, when that fails, enrolls the
device, and only then sets `running` and spawns the duties, which send the
session's `X-Device-Token` header.  These steps read and write three fields:
`self.device_id`, `self.config.device_token` and that header.  They are
modelled here as functions on those fields, given what the credentials file
holds, what the server answers to the enrollment and whether saving the new
credentials raised.

Both `_load_credentials` and `enroll` store whatever token they are given,
`None` included, and `enroll` returns `True` on a 409 answer without storing
anything; so the duties can run with no credential.  Both assign the fields
one at a time before their last step that can raise, so a call that returns
`False` may leave the identity partly changed.
-/

namespace FleetdAgent

/-- The agent's identity: `self.device_id`, `self.config.device_token`, and
the session's `X-Device-Token` header entry (`none` when it is not set);
`requests` sends that entry only when it holds a string. -/
structure Identity where
  deviceId : Json
  deviceToken : Json
  tokenHeader : Option Json

/-- `__init__`: the configured token, sent as the header when it is truthy. -/
def Identity.init (deviceToken : Json) : Identity where
  deviceId := .null
  deviceToken := deviceToken
  tokenHeader := if deviceToken.truthy then some deviceToken else none

/-- `_load_credentials`, given what `json.load` makes of the credentials file
(`none` when the file does not exist). -/
def loadCredentials (file : Option (Except PyError Json)) (s : Identity) : Bool × Identity :=
  match file with
  | none | some (.error _) => (false, s)
  | some (.ok credentials) =>
    match credentials.getItem "device_id" with
    | .error _ => (false, s)
    | .ok deviceId =>
      match credentials.getItem "device_token" with
      | .error _ => (false, { s with deviceId := deviceId })
      | .ok deviceToken => (true, ⟨deviceId, deviceToken, some deviceToken⟩)

/-- `enroll`, given the answer to the enrollment post and the outcome of
`_save_credentials`. -/
def enroll (answer : Except PyError Response) (saved : Except PyError Unit) (s : Identity) :
    Bool × Identity :=
  match answer with
  | .error _ => (false, s)
  | .ok response =>
    if response.statusCode = 409 then (true, s)
    else
      match raiseForStatus response.statusCode >>= fun _ => response.json with
      | .error _ => (false, s)
      | .ok body =>
        match body.getItem "device_id" with
        | .error _ => (false, s)
        | .ok deviceId =>
          match body.getItem "device_token" with
          | .error _ => (false, { s with deviceId := deviceId })
          | .ok deviceToken =>
            match saved with
            | .error _ => (false, ⟨deviceId, deviceToken, some deviceToken⟩)
            | .ok () => (true, ⟨deviceId, deviceToken, some deviceToken⟩)

/-- `start()` up to `self.running = True`: `none` when it returns `False`
instead, else the identity the duties run with.  The system-info update in
between catches its failures and touches no identity field. -/
def startIdentity (configToken : Json) (file : Option (Except PyError Json))
    (answer : Except PyError Response) (saved : Except PyError Unit) : Option Identity :=
  let (loaded, s) := loadCredentials file (Identity.init configToken)
  if loaded then some s
  else
    let (enrolled, s) := enroll answer saved s
    if enrolled then some s else none

/-- What a load does: it fails and leaves the identity as it was, or as it
was but for the `device_id` of a record with no readable `device_token`
(assigned before the token lookup raised); or it stores the record's token
and sends it. -/
theorem loadCredentials_spec (file : Option (Except PyError Json)) (s : Identity) :
    let r := loadCredentials file s
    r.1 = false ∧ (r.2 = s ∨
      ∃ credentials deviceId e, file = some (.ok credentials) ∧
        credentials.getItem "device_id" = .ok deviceId ∧
        credentials.getItem "device_token" = .error e ∧ r.2 = { s with deviceId := deviceId }) ∨
    r.1 = true ∧ r.2.tokenHeader = some r.2.deviceToken ∧
      ∃ credentials, file = some (.ok credentials) ∧
        credentials.getItem "device_token" = .ok r.2.deviceToken := by
  rcases file with _ | (_ | credentials)
  · exact .inl ⟨rfl, .inl rfl⟩
  · exact .inl ⟨rfl, .inl rfl⟩
  rcases hid : credentials.getItem "device_id" with e | deviceId
  · exact .inl ⟨by simp [loadCredentials, hid], .inl (by simp only [loadCredentials, hid])⟩
  rcases htok : credentials.getItem "device_token" with e | deviceToken
  · exact .inl ⟨by simp [loadCredentials, hid, htok], .inr ⟨credentials, deviceId, e, rfl, hid, htok,
      by simp only [loadCredentials, hid, htok]⟩⟩
  · simp only [loadCredentials, hid, htok]
    exact .inr ⟨trivial, trivial, credentials, rfl, htok⟩

/-- What an enrollment does: it fails and leaves the identity as it was, or
with the fields it had assigned from a read response before a later step
raised (`device_id` when `device_token` cannot be read, all three when
`_save_credentials` raised); or it answers 409 and changes nothing; or it
stores the response's token and sends it. -/
theorem enroll_spec (answer : Except PyError Response) (saved : Except PyError Unit)
    (s : Identity) :
    let r := enroll answer saved s
    r.1 = false ∧ (r.2 = s ∨
      ∃ response body deviceId, answer = .ok response ∧ response.statusCode ≠ 409 ∧
        raiseForStatus response.statusCode = .ok () ∧ response.json = .ok body ∧
        body.getItem "device_id" = .ok deviceId ∧
        ((∃ e, body.getItem "device_token" = .error e ∧ r.2 = { s with deviceId := deviceId }) ∨
          ∃ deviceToken e, body.getItem "device_token" = .ok deviceToken ∧ saved = .error e ∧
            r.2 = ⟨deviceId, deviceToken, some deviceToken⟩)) ∨
    r.1 = true ∧ r.2 = s ∧ (∃ response, answer = .ok response ∧ response.statusCode = 409) ∨
    r.1 = true ∧ r.2.tokenHeader = some r.2.deviceToken ∧
      ∃ response body, answer = .ok response ∧ response.json = .ok body ∧
        body.getItem "device_token" = .ok r.2.deviceToken := by
  rcases answer with e | response
  · exact .inl ⟨rfl, .inl rfl⟩
  by_cases h409 : response.statusCode = 409
  · simp only [enroll, h409, if_true]
    exact .inr (.inl ⟨trivial, trivial, response, rfl, h409⟩)
  rcases hr : raiseForStatus response.statusCode with e | u
  · exact .inl (by simp [enroll, h409, hr, bind, Except.bind])
  cases u
  rcases hj : response.json with e | body
  · exact .inl (by simp [enroll, h409, hr, hj, bind, Except.bind])
  have hb : (raiseForStatus response.statusCode >>= fun _ => response.json) = .ok body := by
    rw [hr, hj]
    rfl
  simp only [enroll, h409, if_false, hb]
  rcases hid : body.getItem "device_id" with e | deviceId
  · exact .inl ⟨rfl, .inl rfl⟩
  rcases htok : body.getItem "device_token" with e | deviceToken
  · exact .inl ⟨rfl, .inr ⟨response, body, deviceId, rfl, h409, hr, hj, hid, .inl ⟨e, htok, rfl⟩⟩⟩
  rcases saved with e | ⟨⟩
  · exact .inl ⟨rfl, .inr ⟨response, body, deviceId, rfl, h409, hr, hj, hid,
      .inr ⟨deviceToken, e, htok, rfl, rfl⟩⟩⟩
  · exact .inr (.inr ⟨rfl, rfl, response, body, rfl, hj, htok⟩)

/-- Whenever `start()` reaches `running`, the duties run with the device token
as the `X-Device-Token` header, and that token is the stored credential's,
the enrollment response's, or a truthy configured one; the one exception is a
409 answer to the enrollment of a device with neither a stored credential nor
a truthy configured token, after which the duties run with that falsy token
and no header. -/
theorem start_runs_with_token_header (configToken : Json) (file : Option (Except PyError Json))
    (answer : Except PyError Response) (saved : Except PyError Unit) (s : Identity)
    (h : startIdentity configToken file answer saved = some s) :
    s.tokenHeader = some s.deviceToken ∧
        ((∃ credentials, file = some (.ok credentials) ∧
            credentials.getItem "device_token" = .ok s.deviceToken) ∨
          (∃ response body, answer = .ok response ∧ response.json = .ok body ∧
            body.getItem "device_token" = .ok s.deviceToken) ∨
          s.deviceToken = configToken ∧ configToken.truthy) ∨
      s.tokenHeader = none ∧ s.deviceToken = configToken ∧ configToken.truthy = false ∧
        ∃ response, answer = .ok response ∧ response.statusCode = 409 := by
  obtain ⟨⟨loaded, s₁⟩, hL⟩ : ∃ p, loadCredentials file (Identity.init configToken) = p := ⟨_, rfl⟩
  have hload := loadCredentials_spec file (Identity.init configToken)
  simp only [startIdentity, hL] at h hload
  rcases hload with ⟨rfl, hs₁⟩ | ⟨rfl, hhdr, hfile⟩
  swap
  · cases Option.some.inj h
    exact .inl ⟨hhdr, .inl hfile⟩
  obtain ⟨htok, hhdr⟩ : s₁.deviceToken = configToken ∧
      s₁.tokenHeader = (Identity.init configToken).tokenHeader := by
    rcases hs₁ with rfl | ⟨-, -, -, -, -, -, rfl⟩ <;> exact ⟨rfl, rfl⟩
  obtain ⟨⟨enrolled, s₂⟩, hE⟩ : ∃ p, enroll answer saved s₁ = p := ⟨_, rfl⟩
  have henroll := enroll_spec answer saved s₁
  simp only [hE, Bool.false_eq_true, if_false] at h henroll
  rcases henroll with ⟨rfl, -⟩ | ⟨rfl, rfl, h409⟩ | ⟨rfl, hhdr₂, hresp⟩
  · simp at h
  · cases Option.some.inj h
    by_cases ht : configToken.truthy
    · exact .inl ⟨by simp [hhdr, htok, Identity.init, ht], .inr (.inr ⟨htok, ht⟩)⟩
    · exact .inr ⟨by simp [hhdr, Identity.init, ht], htok, by simpa using ht, h409⟩
  · cases Option.some.inj h
    exact .inl ⟨hhdr₂, .inr (.inl hresp)⟩

theorem start_runs_with_token_header_enrolled :
    startIdentity .null none
        (.ok ⟨201, .ok (.obj [("device_id", .str "d1"), ("device_token", .str "t1")])⟩) (.ok ()) =
      some ⟨.str "d1", .str "t1", some (.str "t1")⟩ ∧
    let s : Identity := ⟨.str "d1", .str "t1", some (.str "t1")⟩
    s.tokenHeader = some s.deviceToken ∧
        ((∃ credentials, (none : Option (Except PyError Json)) = some (.ok credentials) ∧
            credentials.getItem "device_token" = .ok s.deviceToken) ∨
          (∃ response body,
            (.ok ⟨201, .ok (.obj [("device_id", .str "d1"), ("device_token", .str "t1")])⟩ :
              Except PyError Response) = .ok response ∧ response.json = .ok body ∧
            body.getItem "device_token" = .ok s.deviceToken) ∨
          s.deviceToken = .null ∧ Json.null.truthy) ∨
      s.tokenHeader = none ∧ s.deviceToken = .null ∧ Json.null.truthy = false ∧
        ∃ response, (.ok ⟨201, .ok (.obj [("device_id", .str "d1"), ("device_token", .str "t1")])⟩ :
          Except PyError Response) = .ok response ∧ response.statusCode = 409 :=
  ⟨rfl, start_runs_with_token_header .null none _ (.ok ()) _ rfl⟩

/-- Two ways to reach `running` without a credential: no stored credentials,
no configured token and a 409 enrollment answer leave `device_token` `None`
and no header; a stored record whose token is `null` loads, and sets both to
`None`. -/
theorem start_runs_without_credential :
    startIdentity .null none (.ok ⟨409, .ok .null⟩) (.ok ()) = some ⟨.null, .null, none⟩ ∧
      startIdentity .null (some (.ok (.obj [("device_id", .str "d1"), ("device_token", .null)])))
        (.ok ⟨409, .ok .null⟩) (.ok ()) = some ⟨.str "d1", .null, some .null⟩ :=
  ⟨rfl, rfl⟩

/-- When `_load_credentials()` or `enroll()` returns `False`, the identity is
as it was before the call, or it holds exactly what the call had assigned
before the step that raised: the `device_id` of a record or response with no
readable `device_token`, or, when `_save_credentials` raised, the response's
`device_id` and `device_token`, sent as the header. -/
theorem failed_load_or_enroll_identity (file : Option (Except PyError Json))
    (answer : Except PyError Response) (saved : Except PyError Unit) (s : Identity) :
    ((loadCredentials file s).1 = false →
      (loadCredentials file s).2 = s ∨
        ∃ credentials deviceId e, file = some (.ok credentials) ∧
          credentials.getItem "device_id" = .ok deviceId ∧
          credentials.getItem "device_token" = .error e ∧
          (loadCredentials file s).2 = { s with deviceId := deviceId }) ∧
    ((enroll answer saved s).1 = false →
      (enroll answer saved s).2 = s ∨
        ∃ response body deviceId, answer = .ok response ∧ response.statusCode ≠ 409 ∧
          raiseForStatus response.statusCode = .ok () ∧ response.json = .ok body ∧
          body.getItem "device_id" = .ok deviceId ∧
          ((∃ e, body.getItem "device_token" = .error e ∧
              (enroll answer saved s).2 = { s with deviceId := deviceId }) ∨
            ∃ deviceToken e, body.getItem "device_token" = .ok deviceToken ∧ saved = .error e ∧
              (enroll answer saved s).2 = ⟨deviceId, deviceToken, some deviceToken⟩)) := by
  constructor
  · intro h
    rcases loadCredentials_spec file s with ⟨-, hfail⟩ | ⟨hok, -⟩
    · exact hfail
    · simp [hok] at h
  · intro h
    rcases enroll_spec answer saved s with ⟨-, hfail⟩ | ⟨hok, -⟩ | ⟨hok, -⟩
    · exact hfail
    all_goals simp [hok] at h

/-- A stored record without `device_token` fails to load but sets
`device_id`; an enrollment whose credentials cannot be saved returns `False`
with the new token already stored and sent. -/
theorem failed_load_and_enroll_change_identity :
    loadCredentials (some (.ok (.obj [("device_id", .str "d1")]))) (Identity.init .null) =
        (false, ⟨.str "d1", .null, none⟩) ∧
      enroll (.ok ⟨201, .ok (.obj [("device_id", .str "d1"), ("device_token", .str "t1")])⟩)
          (.error ⟨"PermissionError", "[Errno 13] Permission denied"⟩) (Identity.init .null) =
        (false, ⟨.str "d1", .str "t1", some (.str "t1")⟩) :=
  ⟨rfl, rfl⟩

end FleetdAgent
