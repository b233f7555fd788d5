/-
# The texts of a loaded configuration

A JSON library parses only valid UTF-8. The hosts and the JSON pointers of the
configured monitors are texts of the document, so they are valid UTF-8 too, and
whoever quotes them quotes text.
-/

import PixelStatus.Core.Config.WrittenIntegers

namespace PixelStatus

open Logged

/-- What a runner may quote of its source is text. -/
def MonitorSourceConfig.Texts : MonitorSourceConfig → Prop
  | .http config => ValidUtf8 config.jsonPointer ∧ ValidUtf8 config.jsonDenominatorPointer
  | .tcpConnect config => ValidUtf8 config.host
  | .icmpPing config => ValidUtf8 config.host
  | .tcpExchange config => ValidUtf8 config.host
  | .dns config => ValidUtf8 config.host

/-- The JSON pointers of an observation are text. -/
def HttpObserved.Texts (observed : HttpObserved) : Prop :=
  ValidUtf8 observed.jsonPointer ∧ ValidUtf8 observed.jsonDenominatorPointer

variable {object : Members} {path : Bytes} {round : Rounding} {platform : Platform}
  {statuses : Statuses}

theorem validUtf8_nil : ValidUtf8 [] := validUtf8_bytes ""

section

variable (texts : Json.Utf8Members object)
include texts

/-- The bytes of a host are ASCII, so it is text. -/
theorem parseHost_texts : Ensures (OfSome ValidUtf8) (parseHost object path) := by
  apply requiredString_read.bindSome
  · exact Ensures.pure OfSome.none
  intro host found
  dsimp only
  split
  · exact Ensures.pure (OfSome.some (Json.utf8_of_find texts found))
  · exact ensures_reject

/-- The host of a TCP connect monitor is text. -/
theorem parseTcpConnectMonitor_texts :
    Ensures (OfSome fun config => ValidUtf8 config.host) (parseTcpConnectMonitor object path) := by
  apply (parseHost_texts texts).bind
  intro host hhost
  apply Ensures.step
  intro port
  apply Ensures.step
  intro timeout
  split
  next host port timeout => exact Ensures.pure (OfSome.some (hhost host rfl))
  · exact Ensures.pure OfSome.none

/-- The host of a ping is text. -/
theorem parseIcmpPingMonitor_texts :
    Ensures (OfSome fun config => ValidUtf8 config.host) (parseIcmpPingMonitor object path) := by
  apply (parseHost_texts texts).bind
  intro host hhost
  apply Ensures.step
  intro timeout
  split
  next host timeout => exact Ensures.pure (OfSome.some (hhost host rfl))
  · exact Ensures.pure OfSome.none

/-- The host of a TCP exchange is text. -/
theorem parseTcpExchangeMonitor_texts :
    Ensures (OfSome fun config => ValidUtf8 config.host)
      (parseTcpExchangeMonitor object path) := by
  apply (parseHost_texts texts).bind
  intro host hhost
  apply Ensures.step
  intro port
  apply Ensures.step
  intro timeout
  apply Ensures.step
  intro send
  apply Ensures.step
  intro readUntil
  apply Ensures.step
  intro limit
  apply Ensures.step
  intro observation
  split
  next host _ _ _ _ _ _ => exact Ensures.pure (OfSome.some (hhost host rfl))
  · exact Ensures.pure OfSome.none

/-- The host of a lookup is text. -/
theorem parseDnsMonitor_texts :
    Ensures (OfSome fun config => ValidUtf8 config.host) (parseDnsMonitor object path) := by
  apply (parseHost_texts texts).bind
  intro host hhost
  apply Ensures.step
  intro family
  apply Ensures.step
  intro timeout
  apply Ensures.step
  intro observation
  split
  next host _ _ _ => exact Ensures.pure (OfSome.some (hhost host rfl))
  · exact Ensures.pure OfSome.none

end

/-- A pointer of a document of texts is text. -/
theorem pointerAt_texts {value : Option Json} (texts : ∀ json ∈ value, json.Utf8) :
    Ensures (OfSome ValidUtf8) (pointerAt value path) := by
  unfold pointerAt
  split
  next pointer =>
    split
    · exact Ensures.pure (OfSome.some (texts (.string pointer) rfl))
    · exact ensures_reject
  · exact ensures_reject

/-- So are the two pointers of a ratio. -/
theorem parseRatio_texts {ratio : Json} (texts : ratio.Utf8) :
    Ensures (OfSome HttpObserved.Texts) (parseRatio round ratio path) := by
  unfold parseRatio
  split
  next members =>
    have field (key : String) : ∀ json ∈ Members.field members key, json.Utf8 :=
      fun json found => Json.utf8_of_find texts found
    apply Ensures.step
    intro _
    apply (pointerAt_texts (field "numerator")).bindSome
    · exact Ensures.pure OfSome.none
    intro numerator hnumerator
    apply (pointerAt_texts (field "denominator")).bindSome
    · exact Ensures.pure OfSome.none
    intro denominator hdenominator
    apply (Ensures.anySome _).bindMap
    exact fun scale _ => ⟨hnumerator, hdenominator⟩
  · exact ensures_reject

theorem observeTrue_texts {value : Json} {observation : HttpObservation} :
    Ensures (OfSome HttpObserved.Texts) (observeTrue value path observation) := by
  unfold observeTrue
  split
  · exact Ensures.pure (OfSome.some ⟨validUtf8_nil, validUtf8_nil⟩)
  · exact ensures_reject

/-- An observation by a pointer quotes text. -/
theorem observePointer_texts {value : Json} {observation : HttpObservation} (texts : value.Utf8) :
    Ensures (OfSome HttpObserved.Texts) (observePointer value path observation) := by
  have only : ∀ json ∈ some value, json.Utf8 := by
    rintro json ⟨⟩
    exact texts
  apply (pointerAt_texts only).bindMap
  exact fun pointer text => ⟨text, validUtf8_nil⟩

/-- Whatever is observed of a response, the pointers are text. -/
theorem parseHttpObservation_texts (texts : Json.Utf8Members object) :
    Ensures (OfSome HttpObserved.Texts) (parseHttpObservation round object path) := by
  unfold parseHttpObservation
  dsimp only
  split
  next key value found =>
    have text : value.Utf8 := (Json.utf8_of_find texts found).2.1
    split
    · exact observeTrue_texts
    · split
      · exact observeTrue_texts
      · split
        · exact observePointer_texts text
        · split
          · exact observePointer_texts text
          · split
            · exact parseRatio_texts text
            · exact ensures_reject
  · exact ensures_reject

/-- The pointers of an HTTP monitor are text. -/
theorem parseHttpMonitor_texts (texts : Json.Utf8Members object) :
    Ensures (OfSome fun config : HttpMonitorConfig => ValidUtf8 config.jsonPointer ∧
        ValidUtf8 config.jsonDenominatorPointer)
      (parseHttpMonitor round object path) := by
  apply Ensures.step
  intro url
  apply Ensures.step
  intro method
  apply Ensures.step
  intro headers
  apply Ensures.step
  intro body
  apply Ensures.step
  intro timeout
  apply Ensures.step
  intro limit
  apply (parseHttpObservation_texts texts).bindSome
  · exact Ensures.pure OfSome.none
  intro observed hobserved
  dsimp only
  split
  · exact Ensures.pure (OfSome.some hobserved)
  · exact Ensures.pure OfSome.none

/-- Each reader of the table reads texts. -/
theorem monitorKinds_texts : ∀ entry ∈ monitorKinds round, ∀ object path,
    Json.Utf8Members object →
      Ensures (OfSome MonitorSourceConfig.Texts) (entry.2.parse object path) := by
  intro entry member object path texts
  simp only [monitorKinds, List.mem_cons, List.not_mem_nil, or_false] at member
  obtain rfl | rfl | rfl | rfl | rfl := member
  · exact (parseHttpMonitor_texts texts).bindMap fun _ text => text
  · exact (parseTcpConnectMonitor_texts texts).bindMap fun _ text => text
  · exact (parseIcmpPingMonitor_texts texts).bindMap fun _ text => text
  · exact (parseTcpExchangeMonitor_texts texts).bindMap fun _ text => text
  · exact (parseDnsMonitor_texts texts).bindMap fun _ text => text

/-- What a source may quote is text. -/
theorem parseSource_texts {type : Option Bytes} (texts : Json.Utf8Members object) :
    Ensures (OfSome MonitorSourceConfig.Texts) (parseSource round object path type) := by
  unfold parseSource
  split
  next kind known =>
    obtain ⟨name, _, known⟩ := Option.bind_eq_some_iff.mp known
    obtain ⟨entry, found, rfl⟩ := Option.map_eq_some_iff.mp known
    exact monitorKinds_texts entry (List.mem_of_find?_eq_some found) object path texts
  · exact Ensures.pure OfSome.none

/-- A monitor's texts are those of the item it was read from. -/
theorem parsePullMonitor_texts {item : Json} :
    Ensures (OfSome fun config => item.Utf8 → config.source.Texts)
      (parsePullMonitor platform round item path statuses) := by
  unfold parsePullMonitor
  split
  next members =>
    by_cases texts : Json.Utf8Members members
    · apply Ensures.step
      intro id
      apply Ensures.step
      intro type
      apply Ensures.step
      intro _
      apply Ensures.step
      intro interval
      apply Ensures.step
      intro ttl
      apply Ensures.step
      intro evaluation
      apply (parseSource_texts texts).bind
      intro source hsource
      split
      next id interval ttl evaluation source =>
        exact Ensures.pure (OfSome.some fun _ => hsource source rfl)
      · exact Ensures.pure OfSome.none
    · exact (Ensures.anySome _).mono fun _ _ _ _ invalid => absurd invalid texts
  · exact ensures_reject

/-- The values that are read from items with a property have what it implies. -/
theorem forall_of_sublist {α : Type} {items : List Json} {values : List α} {kept : Json → Prop}
    {property : α → Prop}
    (reads : List.SublistForall₂ (fun value item => kept item → property value) values items)
    (each : ∀ item ∈ items, kept item) : ∀ value ∈ values, property value := by
  induction reads with
  | nil => exact List.forall_mem_nil _
  | cons read _ ih =>
      rw [List.forall_mem_cons] at each ⊢
      exact ⟨read each.1, ih each.2⟩
  | cons_right _ ih => exact ih (List.forall_mem_cons.mp each).2

/-- What the monitors may quote is text. -/
theorem parseMonitors_texts {root : Members} (texts : Json.Utf8Members root) :
    Ensures (fun monitors => ∀ monitor ∈ monitors, monitor.source.Texts)
      (parseMonitors platform round root statuses) := by
  unfold parseMonitors
  dsimp only
  split
  · exact Ensures.pure (List.forall_mem_nil _)
  next items found =>
    have each : ∀ item ∈ items, item.Utf8 := Json.utf8Items_iff.mp (Json.utf8_of_find texts found)
    split
    · exact ensures_addError_bind
    · apply (collectDistinct_exact fun _ _ => parsePullMonitor_texts).mono
      exact fun monitors reads => forall_of_sublist reads each
  · exact ensures_addError_bind

/-- So it is in the whole configuration. -/
theorem parseConfig_texts {root : Members} (texts : Json.Utf8Members root) :
    Ensures (fun config => ∀ monitor ∈ config.monitors, monitor.source.Texts)
      (parseConfig platform round root) := by
  apply Ensures.step
  intro _
  apply Ensures.step
  intro schemaVersion
  apply Ensures.step
  intro display
  apply Ensures.step
  intro statuses
  apply (parseMonitors_texts texts).bind
  intro monitors hmonitors
  apply Ensures.step
  intro contents
  exact Ensures.pure hmonitors

/-- What a runner may quote of a loaded configuration is text, when the parser
returns only valid UTF-8. -/
theorem texts_of_loadConfigFile {parse : Bytes → Option Json} {file : ConfigFile}
    {config : AppConfig} (lawful : ∀ text json, parse text = some json → json.Utf8)
    (loaded : (loadConfigFile platform round parse path file).config = some config) :
    ∀ monitor ∈ config.monitors, monitor.source.Texts := by
  unfold loadConfigFile at loaded
  dsimp only at loaded
  split at loaded
  · cases loaded
  · cases loaded
  · split at loaded <;> cases loaded
  · split at loaded
    · cases loaded
    · split at loaded
      next root parsed =>
        unfold finishLoading at loaded
        split at loaded
        next silent =>
          obtain rfl := Option.some.inj loaded
          exact (parseConfig_texts (lawful _ _ parsed)).value silent
        · cases loaded
      · cases loaded

end PixelStatus
