import ScheduledJobs.Proofs.Definition.Plain
import ScheduledJobs.Proofs.Definition.RoundTrip
import ScheduledJobs.Proofs.Document.Json.RoundTrip
import ScheduledJobs.Service.ResourceManager
import ScheduledJobs.Synchronizer

/-!
# Responses of the resource manager

A job is taken for gone when the response to a request for it has the status
code 404, and in no other case.
-/

namespace ScheduledJobs

open Document Text

namespace ResourceManager

variable {State : Type} {manager : ResourceManager} {network : Network State}
  {method : Method} {id : JobId} {payload : Option (List UInt8)}
  {request : Request} {response : Response} {state next : State}

theorem Response.checked_of_isSuccess
    (isSuccess : 200 ≤ response.code ∧ response.code < 300) :
    response.checked = .ok response := by
  have isFound : response.code ≠ 404 := by omega
  rw [checked, if_neg isFound, if_pos isSuccess]

theorem Response.checked_eq_notFound_iff :
    response.checked = .error .notFound ↔ response.code = 404 := by
  unfold checked
  split
  · next missing => simp only [missing]
  · next isFound =>
      split <;> simp [isFound]

theorem Response.definition_ne_notFound (response : Response) :
    response.definition ≠ .error .notFound := by
  unfold definition
  split
  · simp
  · split <;> simp

theorem Response.definition_of_body {definition : Definition}
    (canonical : definition.IsCanonical)
    (isBody : response.body =
      .ok (Utf8.encode (Json.render definition.toValue))) :
    response.definition = .ok definition := by
  have fits := definition.fitsIn_toValue.mono
    (show _ ≤ Json.depthLimit by decide)
  have parsed := Json.ofOctets?_render fits.plain fits.shallow
  simp only [Response.definition, isBody, parsed, Option.map_some,
    Definition.read_toValue canonical]

theorem request_cases (manager : ResourceManager) (method : Method)
    (id : JobId) (payload : Option (List UInt8)) :
    (∃ reason, manager.request method id payload =
        .error (.request reason)) ∨
      ∃ address, manager.request method id payload =
        .ok { method, address, token := manager.token, payload } := by
  unfold ResourceManager.request
  split
  · exact .inl ⟨_, rfl⟩
  · split
    · exact .inl ⟨_, rfl⟩
    · split
      · exact .inr ⟨_, rfl⟩
      · exact .inl ⟨_, rfl⟩

theorem request_ne_notFound :
    manager.request method id payload ≠ .error .notFound := by
  rcases request_cases manager method id payload with
    ⟨reason, refused⟩ | ⟨address, built⟩
  · simp [refused]
  · simp [built]

theorem payload_of_request
    (built : manager.request method id payload = .ok request) :
    request.payload = payload := by
  rcases request_cases manager method id payload with
    ⟨reason, refused⟩ | ⟨address, isBuilt⟩
  · rw [refused] at built
    cases built
  · rw [isBuilt] at built
    obtain rfl := Except.ok.inj built
    rfl

/-- Nothing is sent when a request cannot be built. -/
theorem send_of_request_eq_error {error : Service.Error}
    (refused : manager.request method id payload = .error error) :
    manager.send network method id payload state = (.error error, state) := by
  simp only [send, refused]

theorem send_of_response
    (built : manager.request method id payload = .ok request)
    (answered : network request state = (.ok response, next)) :
    manager.send network method id payload state =
      (response.checked, next) := by
  simp only [send, built, answered]

/-- Nothing but a response with the status code 404 tells that there is no such
job. -/
theorem send_eq_notFound_iff :
    manager.send network method id payload state = (.error .notFound, next) ↔
      ∃ request response,
        manager.request method id payload = .ok request ∧
        network request state = (.ok response, next) ∧
        response.code = 404 := by
  constructor
  · intro sent
    cases built : manager.request method id payload with
    | error error =>
        rw [send_of_request_eq_error built] at sent
        obtain rfl := Except.error.inj (congrArg Prod.fst sent)
        exact absurd built request_ne_notFound
    | ok request =>
        rcases answered : network request state with ⟨reason | response, after⟩
        · simp only [send, built, answered] at sent
          cases sent
        · rw [send_of_response built answered] at sent
          obtain ⟨isMissing, rfl⟩ := Prod.mk.inj sent
          exact ⟨request, response, rfl, answered,
            Response.checked_eq_notFound_iff.mp isMissing⟩
  · rintro ⟨request, response, built, answered, isMissing⟩
    rw [send_of_response built answered,
      Response.checked_eq_notFound_iff.mpr isMissing]

theorem get_serviceOver_eq_notFound_iff :
    (manager.serviceOver network).get id state = (.error .notFound, next) ↔
      manager.send network .get id none state = (.error .notFound, next) := by
  rcases sent : manager.send network .get id none state with
    ⟨error | response, after⟩
  · simp [serviceOver, sent, Except.bind]
  · have isOther := response.definition_ne_notFound
    simp [serviceOver, sent, Except.bind, isOther]

/-- A definition that comes back as it has been sent is read as it was. -/
theorem createOrUpdate_of_echo {definition : Definition}
    (canonical : definition.IsCanonical)
    (built : manager.request .put id
      (some (Utf8.encode (Json.render definition.toValue))) = .ok request)
    (answered : network request state = (.ok response, next))
    (isSuccess : 200 ≤ response.code ∧ response.code < 300)
    (echoes : request.payload.map Except.ok = some response.body) :
    (manager.serviceOver network).createOrUpdate id definition state =
      (.ok definition, next) := by
  rw [payload_of_request built, Option.map_some] at echoes
  have isBody := (Option.some.inj echoes).symm
  have sent := send_of_response built answered
  rw [Response.checked_of_isSuccess isSuccess] at sent
  simp only [serviceOver, sent, Except.bind,
    Response.definition_of_body canonical isBody]

end ResourceManager

namespace Synchronizer

open ResourceManager

variable {State : Type} {synchronizer : Synchronizer State}
  {state next : State}

theorem read_eq_gone_iff {text : String} :
    synchronizer.read text state = (.ok .gone, next) ↔
      ∃ id, JobId.ofText text = .ok id ∧
        synchronizer.service.get id state = (.error .notFound, next) := by
  cases denoted : JobId.ofText text with
  | error error => simp [read, denoted]
  | ok id =>
      rcases got : synchronizer.service.get id state with
        ⟨cause | definition, after⟩
      · cases cause <;> simp [read, denoted, got]
      · simp [read, denoted, got]

/-- Over the resource manager, a job is taken for gone exactly when the response
to a request for it has the status code 404. -/
theorem read_serviceOver_eq_gone_iff {manager : ResourceManager}
    {network : Network State}
    (isService : synchronizer.service = manager.serviceOver network)
    {text : String} :
    synchronizer.read text state = (.ok .gone, next) ↔
      ∃ id request response, JobId.ofText text = .ok id ∧
        manager.request .get id none = .ok request ∧
        network request state = (.ok response, next) ∧
        response.code = 404 := by
  simp only [read_eq_gone_iff, isService, get_serviceOver_eq_notFound_iff,
    send_eq_notFound_iff]
  constructor
  · rintro ⟨id, denoted, request, response, sent⟩
    exact ⟨id, request, response, denoted, sent⟩
  · rintro ⟨id, request, response, denoted, sent⟩
    exact ⟨id, denoted, request, response, sent⟩

end Synchronizer

end ScheduledJobs
