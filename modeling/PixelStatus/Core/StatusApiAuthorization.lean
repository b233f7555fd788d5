/-
# The status API tells the unauthorized nothing

A request without the credential is refused before anything else of it is read.
The refusal is one fixed response: no store, no limit, no token and no other
part of the request changes it. A request with the credential gets whatever the
rest of `handle` answers, and nothing there answers 401.
-/

import PixelStatus.Core.StatusApiAtomicity

namespace PixelStatus.StatusApi

open Outcome

variable (api : StatusApi) (request : ApiRequest)

/-- The headers that are named authorization, up to case. -/
def authorizations : List (Bytes × Bytes) :=
  request.headers.filter fun header => asciiLower header.1 = bytes "authorization"

/-- The value that the API expects of the authorization header. -/
def credential : Bytes := bytes "Bearer " ++ api.bearerToken

/-- Some authorization header has the credential, and there is a token. -/
def Presented : Prop :=
  api.bearerToken ≠ [] ∧ ∃ header ∈ authorizations request, header.2 = api.credential

/-- The only authorization header has the credential, and there is a token. -/
def SolelyPresented : Prop :=
  api.bearerToken ≠ [] ∧ ∃ name, authorizations request = [(name, api.credential)]

variable {api request}

/-- The header that is read is the first of its name. -/
theorem headerValue_authorization :
    headerValue request (bytes "authorization") =
      (authorizations request).head?.map Prod.snd := by
  have lowered : asciiLower (bytes "authorization") = bytes "authorization" := by decide
  rw [headerValue, lowered, authorizations, List.head?_filter]

/-- What is compared in constant time is the credential itself. -/
theorem authorized_iff : api.authorized request = true ↔
    api.bearerToken ≠ [] ∧
      headerValue request (bytes "authorization") = some api.credential := by
  rw [authorized]
  cases headerValue request (bytes "authorization") with
  | none => simp
  | some authorization =>
      rw [Bool.and_eq_true, constantTimeEqual_iff, Option.some.injEq, credential]
      simp

/-- Only a request that presents the token is authorized. -/
theorem presented_of_authorized (authorized : api.authorized request = true) :
    api.Presented request := by
  obtain ⟨token, sent⟩ := authorized_iff.mp authorized
  rw [headerValue_authorization] at sent
  obtain ⟨header, first, value⟩ := Option.map_eq_some_iff.mp sent
  exact ⟨token, header, List.mem_of_mem_head? first, value⟩

/-- A request that presents the token and no other is authorized. -/
theorem authorized_of_solelyPresented (presented : api.SolelyPresented request) :
    api.authorized request = true := by
  obtain ⟨token, name, only⟩ := presented
  apply authorized_iff.mpr
  rw [headerValue_authorization, only]
  exact ⟨token, rfl⟩

/-! ## Behind the decision -/

/-- The errors about what a request says. -/
def Unreadable (error : ApiError) : Prop := error.1 ∈ [400, 413, 415]

variable {members : List (Bytes × Json)} {route : Route} {now : TimePoint} {store : StateStore}

theorem parseId_unreadable : FailsWith Unreadable (parseId members route) := by
  cases route with
  | item id =>
      simp only [parseId]
      split
      · exact FailsWith.ok _
      · split
        · exact FailsWith.error (by simp [Unreadable])
        · exact FailsWith.ok _
      · exact FailsWith.error (by simp [Unreadable])
  | collection =>
      simp only [parseId]
      split
      · exact FailsWith.ok _
      · exact FailsWith.error (by simp [Unreadable])

theorem parseStatus_unreadable : FailsWith Unreadable (api.parseStatus members) := by
  unfold parseStatus
  split
  · split
    · exact FailsWith.error (by simp [Unreadable])
    · exact FailsWith.ok _
  · exact FailsWith.error (by simp [Unreadable])

theorem parseMessage_unreadable : FailsWith Unreadable (api.parseMessage members) := by
  unfold parseMessage
  split
  · exact FailsWith.ok _
  · split
    · exact FailsWith.error (by simp [Unreadable])
    · exact FailsWith.ok _
  · exact FailsWith.error (by simp [Unreadable])

theorem parseValue_unreadable : FailsWith Unreadable (api.parseValue members) := by
  unfold parseValue
  split
  · exact FailsWith.ok _
  next value _ =>
    cases parseStateValue api.limits value with
    | ok value => exact FailsWith.ok value
    | error message => exact FailsWith.error (by simp [Unreadable])

theorem parseSeconds_unreadable {seconds : UInt64} :
    FailsWith Unreadable (api.parseSeconds seconds) := by
  unfold parseSeconds
  dsimp only
  split
  · exact FailsWith.error (by simp [Unreadable])
  · exact FailsWith.ok _

theorem parseTtl_unreadable : FailsWith Unreadable (api.parseTtl members) := by
  unfold parseTtl
  split
  · exact FailsWith.ok _
  · exact parseSeconds_unreadable
  · split
    · exact FailsWith.error (by simp [Unreadable])
    · exact parseSeconds_unreadable
  · exact FailsWith.error (by simp [Unreadable])

/-- Whatever is wrong with the fields is no refusal. -/
theorem parseFields_unreadable : FailsWith Unreadable (api.parseFields members route now) := by
  unfold parseFields
  split
  · exact FailsWith.error (by simp [Unreadable])
  · apply parseId_unreadable.bind
    intro id _
    split
    · exact FailsWith.error (by simp [Unreadable])
    · apply parseStatus_unreadable.bind
      intro status _
      apply parseMessage_unreadable.bind
      intro message _
      apply parseValue_unreadable.bind
      intro value _
      apply parseTtl_unreadable.bind
      intro ttl _
      exact FailsWith.ok _

/-- Nor is what is wrong with the body. -/
theorem parseUpdate_unreadable :
    FailsWith Unreadable (api.parseUpdate request route now) := by
  unfold parseUpdate
  split
  · exact FailsWith.error (by simp [Unreadable])
  · split
    · exact FailsWith.error (by simp [Unreadable])
    · split
      · exact parseFields_unreadable
      · exact FailsWith.error (by simp [Unreadable])

/-- A response that is there does not refuse the request. -/
def Admits (answer : Option ApiResponse) : Prop :=
  ∀ response, answer = some response → response.status ≠ 401

/-- A response other than a refusal admits the request. -/
theorem admits_jsonResponse {status : Nat} {body : Json} {headers : List (Bytes × Bytes)}
    (other : status ≠ 401) : Admits (api.jsonResponse status body headers) := by
  intro response built
  rw [(jsonResponse_eq_some built).1]
  exact other

/-- An error other than a refusal admits the request. -/
theorem admits_errorResponse {error : ApiError} {headers : List (Bytes × Bytes)}
    (other : error.1 ≠ 401) : Admits (api.errorResponse error headers) :=
  admits_jsonResponse other

/-- An unreadable update is not refused for its token. -/
theorem admits_unreadable {error : ApiError} (unreadable : Unreadable error) :
    Admits (api.errorResponse error) := by
  apply admits_errorResponse
  intro refused
  rw [Unreadable, refused] at unreadable
  exact absurd unreadable (by decide)

/-- A read admits the request. -/
theorem admits_get : Admits (api.get store now route) := by
  cases route with
  | item id =>
      simp only [get]
      split
      · exact admits_errorResponse (by decide)
      · split
        · exact admits_errorResponse (by decide)
        · exact admits_jsonResponse (by decide)
  | collection => exact admits_jsonResponse (by decide)

/-- Nor is any update. -/
theorem admits_update {state : MonitorState} : Admits (api.update store state now).1 := by
  simp only [update]
  split
  · exact admits_errorResponse (by decide)
  · split
    · exact admits_errorResponse (by decide)
    · intro response built
      obtain ⟨resolved, _, built⟩ := Option.bind_eq_some_iff.mp built
      rw [(jsonResponse_eq_some built).1]
      split <;> decide

/-- Behind the decision nothing answers 401. -/
theorem admits_handle (authorized : api.authorized request = true) :
    Admits (api.handle store request now).1 := by
  unfold handle
  rw [if_neg (by simp [authorized])]
  split
  · exact admits_errorResponse (by decide)
  · dsimp only
    split
    · exact admits_get
    · split
      · exact admits_errorResponse (by decide)
      · split
        next error failed => exact admits_unreadable (parseUpdate_unreadable error failed)
        · exact admits_update

/-! ## The refusal -/

def refusalBody : Json := .object [(bytes "error", .string (bytes "authentication required"))]

/-- The response to a request that is not authorized, with its printed body. -/
def refusal (text : Bytes) : ApiResponse :=
  { status := 401, headers := [(bytes "WWW-Authenticate", bytes "Bearer")], body := text }

/-- Without the token every request is refused alike. -/
theorem handle_of_not_presented (absent : ¬ api.Presented request) :
    api.handle store request now = ((api.library.dump refusalBody).map refusal, store) := by
  have unauthorized : (!api.authorized request) = true := by
    rw [Bool.not_eq_true']
    exact Bool.eq_false_iff.mpr fun authorized => absent (presented_of_authorized authorized)
  unfold handle
  rw [if_pos unauthorized]
  rfl

theorem utf8_refusalBody : refusalBody.Utf8 :=
  ⟨validUtf8_bytes "error", validUtf8_bytes "authentication required", True.intro⟩

/-- Without the credential two runs end in the same response, whatever differs
between them; with the credential alone, no response refuses; and the
comparison that decides is equality. -/
theorem authorization_noninterfering {library : JsonLibrary} (lawful : library.Lawful) :
    (∃ refused : ApiResponse, refused.status = 401 ∧
      ∀ (first second : StatusApi) (firstStore secondStore : StateStore)
        (firstRequest secondRequest : ApiRequest) (firstNow secondNow : TimePoint),
        first.library = library → second.library = library →
        ¬ first.Presented firstRequest → ¬ second.Presented secondRequest →
          first.handle firstStore firstRequest firstNow = (some refused, firstStore) ∧
          second.handle secondStore secondRequest secondNow = (some refused, secondStore)) ∧
    (∀ (api : StatusApi) (store : StateStore) (request : ApiRequest) (now : TimePoint),
      api.SolelyPresented request → ∀ response,
        (api.handle store request now).1 = some response → response.status ≠ 401) ∧
    ∀ left right : Bytes, constantTimeEqual left right = true ↔ left = right := by
  have dumps : (library.dump refusalBody).isSome = true :=
    (lawful.dump_isSome refusalBody).mpr utf8_refusalBody
  obtain ⟨text, dumped⟩ := Option.isSome_iff_exists.mp dumps
  refine ⟨⟨refusal text, rfl, ?_⟩, ?_, fun _ _ => constantTimeEqual_iff⟩
  · intro first second firstStore secondStore firstRequest secondRequest firstNow secondNow
      hfirst hsecond firstAbsent secondAbsent
    rw [handle_of_not_presented firstAbsent, handle_of_not_presented secondAbsent, hfirst,
      hsecond, dumped]
    exact ⟨rfl, rfl⟩
  · intro api store request now presented
    exact admits_handle (authorized_of_solelyPresented presented)

/-- A POST without its headers, and the API without a token. -/
theorem authorization_noninterfering_examplePost :
    ∃ refused : ApiResponse, refused.status = 401 ∧
      (exampleApi.handle .empty { examplePost with headers := [] } 0).1 = some refused ∧
      ({ exampleApi with bearerToken := [] }.handle .empty examplePost 5).1 = some refused := by
  have lawful := @Json.lawful_tableLibrary exampleBody _ utf8_exampleDocument
  obtain ⟨refused, status, same⟩ := (authorization_noninterfering lawful).1
  obtain ⟨without, blank⟩ := same exampleApi { exampleApi with bearerToken := [] } .empty .empty
    { examplePost with headers := [] } examplePost 0 5 rfl rfl
    (fun presented => absurd presented.2 (by simp [authorizations]))
    (fun presented => presented.1 rfl)
  exact ⟨refused, status, congrArg Prod.fst without, congrArg Prod.fst blank⟩

end PixelStatus.StatusApi
