/-
# A collector never reports healthy over data it failed to refresh

Each refresh catches its collector's own exception class only. So the promise
holds in the runs in which nothing else is raised, which is a condition on what
the peers answer; one answer outside it ends the refresh thread, and the last
healthy document is served from then on.
-/

import PixelStatus.Tools.Collectors.ClaudeUsage
import PixelStatus.Tools.Collectors.OpenWrt
import PixelStatus.Tools.Collectors.UniFi

namespace PixelStatus.Collectors

open RefreshLoop

def sessionText : String :=
  "\x7b\"result\":[0,\x7b\"ubus_rpc_session\":\"00112233445566778899aabbccddeeff\"\x7d]\x7d"

def noMembersText : String := "\x7b\"result\":[0,\x7b\x7d]\x7d"

def interfacesText : String :=
  "\x7b\"result\":[0,\x7b\"interface\":[\x7b\"interface\":\"wwan\"\x7d]\x7d]\x7d"

def devicesText : String := "\x7b\"result\":[0,\x7b\"devices\":[]\x7d]\x7d"

def objectText : String := "\x7b\x7d"

def recordText : String := "\x7b\"data\":[\x7b\"id\":\"a\"\x7d]\x7d"

def credentialsText : String := "\x7b\"claudeAiOauth\":\x7b\"accessToken\":\"t\"\x7d\x7d"

def usageText (digits : PyText) : PyText :=
  pyText "\x7b\"five_hour\":\x7b\"utilization\":" ++ digits
    ++ pyText "\x7d,\"seven_day\":\x7b\"utilization\":0.5\x7d\x7d"

def object (name : String) (value : PyValue) : PyValue := .dict [(pyText name, value)]

def ubusResult (payload : PyValue) : PyValue := object "result" (.list [.integer 0, payload])

def usage (utilization : PyNumber) : PyValue :=
  .dict [(pyText "five_hour", object "utilization" utilization.toValue),
    (pyText "seven_day", object "utilization" (.real (.finite (1 / 2))))]

/-- 10 to the 309th power, beyond every double. -/
def tooLarge : PyText := 0x31 :: List.replicate 309 0x30

/-- The documents of the runs below, and what `json.loads` makes of them. -/
def loaded : List (PyText × PyValue) := [
  (pyText sessionText,
    ubusResult (object "ubus_rpc_session" (.text (pyText "00112233445566778899aabbccddeeff")))),
  (pyText noMembersText, ubusResult (.dict [])),
  (pyText interfacesText,
    ubusResult (object "interface" (.list [object "interface" (.text (pyText "wwan"))]))),
  (pyText devicesText, ubusResult (object "devices" (.list []))),
  (pyText objectText, .dict []),
  (pyText recordText, object "data" (.list [object "id" (.text (pyText "a"))])),
  (pyText credentialsText,
    object "claudeAiOauth" (object "accessToken" (.text (pyText "t")))),
  (usageText (pyText "7.5"), usage (.real (.finite (15 / 2))))]

/-- Python on ASCII text and these documents. -/
def exampleRuntime : Runtime where
  decodeUtf8 content := some (content.map UInt8.toNat)
  loads text :=
    match loaded.lookup text with
    | some value => .ok value
    | none =>
        if text = usageText tooLarge then .ok (usage (.integer (10 ^ 309 : Nat)))
        else .error .jsonDecodeError
  timestamp _ := .error .typeError
  loweredStr _ := []
  round := Double.exact
  roundTo value _ := value
  refreshDepth := 400
  serverDepth := 400

/-- The example runtime behaves as a Python runtime does. -/
theorem exampleRuntime_lawful : exampleRuntime.Lawful where
  round_ne_zero value nonzero same := by
    have zero : (value : ℚ) = 0 := Double.finite.inj same
    exact nonzero (by exact_mod_cast zero)
  refreshDepth := by decide
  serverDepth := by decide

/-- It raises no error of its own for a text. -/
theorem exampleRuntime_loads (text : PyText) :
    exampleRuntime.loads text ≠ .error .valueError ∧
      exampleRuntime.loads text ≠ .error .recursionError := by
  unfold exampleRuntime
  dsimp only
  split
  · exact ⟨nofun, nofun⟩
  · split
    · exact ⟨nofun, nofun⟩
    · exact ⟨nofun, nofun⟩

def reply (text : String) : Exchange := .pinned (.responded 200 (bytes text))

/-- A reply with a text is handled by both clients. -/
theorem reply_handled (client : PinnedClient) (text : String) :
    client.Handled exampleRuntime (reply text) :=
  fun _ _ text _ => exampleRuntime_loads text

def openWrtClient : OpenWrt.PinnedUbusClient where
  target := pyText "/ubus"
  maximumResponseBytes := 256 * 1024

/-- A refresh in which every request is answered, and one without connection. -/
def openWrtRun : List OpenWrt.Iteration := [
  { exchanges := [reply sessionText, reply noMembersText, reply noMembersText,
      reply interfacesText, reply devicesText],
    updatedAt := pyText "2026-01-01T00:00:00Z", timestamp := pyText "2026-01-01T00:00:01Z" },
  { exchanges := [], updatedAt := pyText "2026-01-01T00:01:00Z",
    timestamp := pyText "2026-01-01T00:01:00Z" }]

def unifiClient : UniFi.PinnedHttpsJsonClient where
  basePath := pyText "/proxy/network/integration"
  apiKey := pyText "k"
  maximumResponseBytes := 256 * 1024

def unifiRun : List UniFi.Iteration := [
  { exchanges := [reply objectText, reply recordText, reply recordText, reply objectText,
      reply objectText, reply recordText],
    updatedAt := pyText "2026-01-01T00:00:00Z", timestamp := pyText "2026-01-01T00:00:01Z" },
  { exchanges := [.wrongCertificate], updatedAt := pyText "2026-01-01T00:01:00Z",
    timestamp := pyText "2026-01-01T00:01:00Z" }]

def usageIteration (digits : PyText) : ClaudeUsage.Iteration where
  credentials := some (bytes credentialsText)
  now := 1767225600000
  answer := .responded ((usageText digits).map UInt8.ofNat)
  timestamp := pyText "2026-01-01T00:00:00Z"

/-- Every iteration of the OpenWrt run is safe. -/
theorem openWrtRun_safe : ∀ iteration ∈ openWrtRun,
    OpenWrt.Safe exampleRuntime openWrtClient (pyText "wwan") iteration := by
  intro iteration hiteration
  rcases List.mem_pair.mp hiteration with rfl | rfl
  · refine ⟨fun _ => ⟨Or.inr (by decide), rfl⟩, ?_, ?_⟩
    · apply PinnedClient.allHandled_of_forall
      simp [reply_handled]
    · intro documents rest gathered
      cases gathered
      exact ⟨nofun, nofun, by decide⟩
  · exact ⟨nofun, trivial, nofun⟩

/-- Every iteration of the UniFi run is safe. -/
theorem unifiRun_safe : ∀ iteration ∈ unifiRun,
    UniFi.Safe exampleRuntime unifiClient none none iteration := by
  intro iteration hiteration
  rcases List.mem_pair.mp hiteration with rfl | rfl
  · refine ⟨fun _ => ⟨Or.inr (by decide), rfl⟩, ?_, ?_, ?_, ?_⟩
    · apply PinnedClient.allHandled_of_forall
      simp [reply_handled]
    · intro site rest chosen _
      cases chosen
      exact Or.inr (by decide)
    · intro site device rest rest' hsite chosen _
      cases hsite
      cases chosen
      exact Or.inr (by decide)
    · intro documents rest gathered
      cases gathered
      unfold UniFi.Documents.Shallow
      decide
  · exact ⟨nofun, ⟨trivial, fun ⟨_, _, read⟩ => nomatch read⟩, nofun, nofun, nofun⟩

/-- The document with the integer 10 ^ 309 is loaded. -/
theorem loads_tooLarge :
    exampleRuntime.loads (usageText tooLarge) = .ok (usage (.integer (10 ^ 309 : Nat))) := by
  have absent : (loaded.lookup (usageText tooLarge)).isNone = true := by
    decide +kernel
  unfold exampleRuntime
  dsimp only
  rw [Option.isNone_iff_eq_none.mp absent]
  exact if_pos rfl

/-- A usage answer that loads is safe exactly when its utilization is in range. -/
theorem usageIteration_safe_iff {digits : PyText} {utilization : PyNumber}
    (loads : exampleRuntime.loads (usageText digits) = .ok (usage utilization))
    (numeric : PyNumber.ofValue utilization.toValue = some utilization)
    (ascii : ((usageText digits).map UInt8.ofNat).map UInt8.toNat = usageText digits)
    (short : (usageText digits).length ≤ ClaudeUsage.maximumResponseBytes) :
    ClaudeUsage.Safe exampleRuntime (usageIteration digits) ↔ utilization.FloatDefined := by
  have shallow : ∀ content, ClaudeUsage.Shallow exampleRuntime content :=
    fun _ text _ => (exampleRuntime_loads text).2
  have dated : ∀ value, ClaudeUsage.Datable exampleRuntime value :=
    fun _ => ⟨nofun, nofun⟩
  have decoded : exampleRuntime.decodeUtf8 ((usageText digits).map UInt8.ofNat)
      = some (usageText digits) := congrArg some ascii
  refine ⟨?_, ?_⟩
  · intro safe
    have answer := (safe.2 (pyText "t") rfl).2 (by rwa [List.length_map])
    have windows := answer.2 _ _ decoded loads
    exact (windows.1 _ utilization ⟨rfl, numeric⟩).2
  · intro inside
    refine ⟨fun content _ => shallow content, fun token read => ⟨?_, fun _ => ⟨shallow _, ?_⟩⟩⟩
    · cases read
      decide
    · intro text document decoded' loads'
      cases decoded.symm.trans decoded'
      cases loads.symm.trans loads'
      refine ⟨?_, fun _ => ⟨?_, fun _ => trivial⟩⟩
      · intro window number ⟨hwindow, hnumber⟩
        cases hwindow
        cases numeric.symm.trans hnumber
        exact ⟨dated _, inside⟩
      · intro window number ⟨hwindow, hnumber⟩
        cases hwindow
        cases hnumber
        exact ⟨dated _, trivial⟩

/-- An iteration with an ordinary utilization is safe. -/
theorem usageIteration_safe_half :
    ClaudeUsage.Safe exampleRuntime (usageIteration (pyText "7.5")) := by
  have inside : PyNumber.FloatDefined (.real (.finite (15 / 2))) := trivial
  exact (usageIteration_safe_iff rfl rfl (by decide) (by decide)).mpr inside

end PixelStatus.Collectors
