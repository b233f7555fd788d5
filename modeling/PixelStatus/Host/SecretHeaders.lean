/-
# Secrets in headers

The loader checks the references of a header value, and the host resolves them,
with two scanners of one grammar. A value is text with references between its
pieces; resolving puts a secret in the place of each reference and never reads a
secret for references. What a secret contains is checked behind it.
-/

import PixelStatus.Host.MonitorRunnerFactory

namespace PixelStatus

/-- A value as its references, each with the text before it, and its last text. -/
inductive Template : Bytes → List (Bytes × Bytes) → Bytes → Prop
  | plain {text : Bytes} (absent : ¬ secretMark <:+: text) : Template text [] text
  | reference {value before name rest tail : Bytes} {references : List (Bytes × Bytes)}
      (shape : value = before ++ (secretMark ++ (name ++ 0x7D :: rest)))
      (first : FirstBehind secretMark value before) (closed : 0x7D ∉ name)
      (later : Template rest references tail) : Template value ((before, name) :: references) tail

/-! ## The next reference -/

/-- A value without the mark has no reference. -/
theorem nextSecret_eq_none_iff {value : Bytes} :
    nextSecret value = none ↔ ¬ secretMark <:+: value := by
  rw [nextSecret, Option.map_eq_none_iff, splitFirst_eq_none_iff]

/-- The first brace closes a name that has none. -/
theorem splitFirst_brace {text name rest : Bytes} :
    splitFirst [0x7D] text = some (name, rest) ↔ text = name ++ 0x7D :: rest ∧ 0x7D ∉ name := by
  refine ⟨?_, ?_⟩
  · intro found
    obtain ⟨rfl, first⟩ := splitFirst_eq_some_iff.mp found
    refine ⟨rfl, fun member => ?_⟩
    obtain ⟨front, back, rfl⟩ := List.append_of_mem member
    have bound := first.least front ⟨back ++ ([0x7D] ++ rest), by simp⟩
    rw [List.length_append, List.length_cons] at bound
    omega
  · rintro ⟨rfl, open'⟩
    exact splitFirst_append open' rest

/-- The first reference is behind the first mark and ends with a brace. -/
theorem nextSecret_eq_some_iff {value before name rest : Bytes} :
    nextSecret value = some (before, some (name, rest)) ↔
      value = before ++ (secretMark ++ (name ++ 0x7D :: rest)) ∧
        FirstBehind secretMark value before ∧ 0x7D ∉ name := by
  rw [nextSecret, Option.map_eq_some_iff]
  refine ⟨?_, ?_⟩
  · rintro ⟨⟨front, after⟩, found, same⟩
    obtain ⟨rfl, closes⟩ := Prod.mk.inj same
    obtain ⟨rfl, first⟩ := splitFirst_eq_some_iff.mp found
    obtain ⟨rfl, closed⟩ := splitFirst_brace.mp closes
    exact ⟨rfl, first, closed⟩
  · rintro ⟨shape, first, closed⟩
    refine ⟨(before, name ++ 0x7D :: rest), splitFirst_eq_some_iff.mpr ⟨shape, first⟩, ?_⟩
    exact Prod.ext rfl (splitFirst_brace.mpr ⟨rfl, closed⟩)

namespace Template

variable {value before name rest tail tail' : Bytes} {references references' : List (Bytes × Bytes)}

/-- A value without a reference is its own tail. -/
theorem iff_of_unmarked (unmarked : nextSecret value = none) :
    Template value references tail ↔ references = [] ∧ tail = value := by
  refine ⟨?_, ?_⟩
  · intro reads
    cases reads with
    | plain => exact ⟨rfl, rfl⟩
    | reference shape first closed =>
        rw [nextSecret_eq_some_iff.mpr ⟨shape, first, closed⟩] at unmarked
        cases unmarked
  · rintro ⟨rfl, rfl⟩
    exact .plain (nextSecret_eq_none_iff.mp unmarked)

/-- A reference without an end has no reading. -/
theorem not_of_unclosed (unclosed : nextSecret value = some (before, none)) :
    ¬ Template value references tail := by
  intro reads
  cases reads with
  | plain absent =>
      rw [nextSecret_eq_none_iff.mpr absent] at unclosed
      cases unclosed
  | reference shape first closed =>
      rw [nextSecret_eq_some_iff.mpr ⟨shape, first, closed⟩] at unclosed
      cases unclosed

/-- The first reference is read, and then the rest. -/
theorem iff_of_next (found : nextSecret value = some (before, some (name, rest))) :
    Template value references tail ↔
      ∃ later, references = (before, name) :: later ∧ Template rest later tail := by
  refine ⟨?_, ?_⟩
  · intro reads
    cases reads with
    | plain absent =>
        rw [nextSecret_eq_none_iff.mpr absent] at found
        cases found
    | reference shape first closed later =>
        rw [nextSecret_eq_some_iff.mpr ⟨shape, first, closed⟩] at found
        cases found
        exact ⟨_, rfl, later⟩
  · rintro ⟨later, rfl, reads⟩
    obtain ⟨shape, first, closed⟩ := nextSecret_eq_some_iff.mp found
    exact .reference shape first closed reads

/-- A value has one reading. -/
theorem unique (reads : Template value references tail) (reads' : Template value references' tail') :
    references = references' ∧ tail = tail' := by
  induction reads generalizing references' tail' with
  | plain absent =>
      obtain ⟨rfl, rfl⟩ := (iff_of_unmarked (nextSecret_eq_none_iff.mpr absent)).mp reads'
      exact ⟨rfl, rfl⟩
  | reference shape first closed _ ih =>
      have found := nextSecret_eq_some_iff.mpr ⟨shape, first, closed⟩
      obtain ⟨later, rfl, behind⟩ := (iff_of_next found).mp reads'
      obtain ⟨rfl, rfl⟩ := ih behind
      exact ⟨rfl, rfl⟩

end Template

/-! ## The two scanners -/

variable {rounds : Nat} {value resolved : Bytes}

/-- What is behind a reference needs fewer rounds. -/
theorem length_rest_le {before name rest : Bytes} (enough : value.length ≤ rounds + 1)
    (found : nextSecret value = some (before, some (name, rest))) : rest.length ≤ rounds := by
  obtain ⟨shape, _, _⟩ := nextSecret_eq_some_iff.mp found
  have length := congrArg List.length shape
  simp only [List.length_append, List.length_cons] at length
  omega

theorem nextSecret_nil : nextSecret [] = none := by decide

/-- The loader accepts the values whose references have valid names. -/
theorem validSecretReferences_iff (enough : value.length ≤ rounds) :
    validSecretReferences rounds value = true ↔ ∃ references tail,
      Template value references tail ∧
        ∀ reference ∈ references, validSecretName reference.2 = true := by
  induction rounds generalizing value with
  | zero =>
      obtain rfl := List.length_eq_zero_iff.mp (Nat.le_zero.mp enough)
      exact iff_of_true rfl ⟨[], [], (Template.iff_of_unmarked nextSecret_nil).mpr ⟨rfl, rfl⟩,
        List.forall_mem_nil _⟩
  | succ rounds ih =>
      unfold validSecretReferences
      split
      next unmarked =>
        exact iff_of_true rfl ⟨[], value, (Template.iff_of_unmarked unmarked).mpr ⟨rfl, rfl⟩,
          List.forall_mem_nil _⟩
      next before unclosed =>
        refine iff_of_false Bool.false_ne_true ?_
        rintro ⟨_, _, reads, _⟩
        exact Template.not_of_unclosed unclosed reads
      next before name rest found =>
        rw [Bool.and_eq_true, ih (length_rest_le enough found)]
        refine ⟨?_, ?_⟩
        · rintro ⟨valid, later, tail, reads, others⟩
          exact ⟨(before, name) :: later, tail, (Template.iff_of_next found).mpr ⟨later, rfl, reads⟩,
            List.forall_mem_cons.mpr ⟨valid, others⟩⟩
        · rintro ⟨_, tail, reads, valid⟩
          obtain ⟨later, rfl, behind⟩ := (Template.iff_of_next found).mp reads
          obtain ⟨first, others⟩ := List.forall_mem_cons.mp valid
          exact ⟨first, later, tail, behind, others⟩

namespace Host

/-- What a resolver says about a name. -/
def lookUp (resolver : SecretResolver) (name : Bytes) : Option Bytes :=
  resolver.bind fun resolve => resolve name

/-- The texts before the references, each with a secret behind it, and the last text. -/
def substituted (references : List (Bytes × Bytes)) (secrets : List Bytes) (tail : Bytes) : Bytes :=
  (List.zipWith (fun reference secret => reference.1 ++ secret) references secrets).flatten ++ tail

/-- A value has a reading whose names are valid and known, with these secrets. -/
structure Resolves (resolver : SecretResolver) (value : Bytes) (references : List (Bytes × Bytes))
    (secrets : List Bytes) (tail : Bytes) : Prop where
  reads : Template value references tail
  valid : ∀ reference ∈ references, validSecretName reference.2 = true
  known : references.map (fun reference => lookUp resolver reference.2) = secrets.map some

variable {resolver : SecretResolver}

/-- Behind a reference with a valid and known name the value resolves as well. -/
theorem Resolves.iff_of_next {before name rest tail : Bytes} {references : List (Bytes × Bytes)}
    {secrets : List Bytes} (found : nextSecret value = some (before, some (name, rest))) :
    Resolves resolver value references secrets tail ↔ ∃ later secret others,
      references = (before, name) :: later ∧ secrets = secret :: others ∧
        validSecretName name = true ∧ lookUp resolver name = some secret ∧
        Resolves resolver rest later others tail := by
  refine ⟨?_, ?_⟩
  · intro resolves
    obtain ⟨later, rfl, behind⟩ := (Template.iff_of_next found).mp resolves.reads
    obtain ⟨valid, others⟩ := List.forall_mem_cons.mp resolves.valid
    obtain ⟨secret, rest, rfl, same, known⟩ := List.map_eq_cons_iff.mp resolves.known.symm
    exact ⟨later, secret, rest, rfl, rfl, valid, same.symm, behind, others, known.symm⟩
  · rintro ⟨later, secret, others, rfl, rfl, valid, known, resolves⟩
    refine ⟨?_, ?_, ?_⟩
    · exact (Template.iff_of_next found).mpr ⟨later, rfl, resolves.reads⟩
    · exact List.forall_mem_cons.mpr ⟨valid, resolves.valid⟩
    · exact List.cons_eq_cons.mpr ⟨known, resolves.known⟩

/-- The first secret takes the place of the first reference. -/
theorem substituted_cons {before name secret tail : Bytes} {later : List (Bytes × Bytes)}
    {others : List Bytes} :
    substituted ((before, name) :: later) (secret :: others) tail =
      before ++ secret ++ substituted later others tail := by
  simp only [substituted, List.zipWith_cons_cons, List.flatten_cons, List.append_assoc]

/-- A value without a reference resolves to itself. -/
theorem resolves_of_unmarked (unmarked : nextSecret value = none) :
    (.ok value : Except Bytes Bytes) = .ok resolved ↔ ∃ references secrets tail,
      Resolves resolver value references secrets tail ∧
        resolved = substituted references secrets tail := by
  refine ⟨?_, ?_⟩
  · intro same
    refine ⟨[], [], value, ⟨?_, List.forall_mem_nil _, rfl⟩, (Except.ok.inj same).symm⟩
    exact (Template.iff_of_unmarked unmarked).mpr ⟨rfl, rfl⟩
  · rintro ⟨references, secrets, tail, resolves, rfl⟩
    obtain ⟨rfl, rfl⟩ := (Template.iff_of_unmarked unmarked).mp resolves.reads
    rfl

/-- The host resolves the values whose references have valid names that the
resolver knows, and puts a secret in the place of each. -/
theorem resolveReferences_iff (enough : value.length ≤ rounds) :
    resolveReferences resolver rounds value = .ok resolved ↔ ∃ references secrets tail,
      Resolves resolver value references secrets tail ∧
        resolved = substituted references secrets tail := by
  induction rounds generalizing value resolved with
  | zero =>
      obtain rfl := List.length_eq_zero_iff.mp (Nat.le_zero.mp enough)
      exact resolves_of_unmarked nextSecret_nil
  | succ rounds ih =>
      unfold resolveReferences
      split
      next unmarked => exact resolves_of_unmarked unmarked
      next before unclosed =>
        refine iff_of_false ?_ ?_
        · intro impossible
          cases impossible
        · rintro ⟨_, _, _, resolves, _⟩
          exact Template.not_of_unclosed unclosed resolves.reads
      next before name rest found =>
        split
        next invalid =>
          refine iff_of_false ?_ ?_
          · intro impossible
            cases impossible
          · rintro ⟨_, _, _, resolves, _⟩
            obtain ⟨_, _, _, _, _, valid, _⟩ := (Resolves.iff_of_next found).mp resolves
            simp [valid] at invalid
        next valid =>
          split
          next unknown =>
            refine iff_of_false ?_ ?_
            · intro impossible
              cases impossible
            · rintro ⟨_, _, _, resolves, _⟩
              obtain ⟨_, _, _, _, _, _, known, _⟩ := (Resolves.iff_of_next found).mp resolves
              exact Option.some_ne_none _ (known.symm.trans unknown)
          next secret known =>
            rw [Outcome.bind_eq_ok]
            refine ⟨?_, ?_⟩
            · rintro ⟨behind, resolved, same⟩
              cases same
              obtain ⟨later, others, tail, resolves, rfl⟩ :=
                (ih (length_rest_le enough found)).mp resolved
              refine ⟨(before, name) :: later, secret :: others, tail, ?_, substituted_cons.symm⟩
              exact (Resolves.iff_of_next found).mpr
                ⟨later, secret, others, rfl, rfl, by simpa using valid, known, resolves⟩
            · rintro ⟨_, _, tail, resolves, rfl⟩
              obtain ⟨later, first, others, rfl, rfl, _, same, behind⟩ :=
                (Resolves.iff_of_next found).mp resolves
              obtain rfl : first = secret := Option.some.inj (same.symm.trans known)
              refine ⟨substituted later others tail, ?_, ?_⟩
              · exact (ih (length_rest_le enough found)).mpr ⟨later, others, tail, behind, rfl⟩
              · rw [substituted_cons]
                rfl

/-! ## The header loop -/

/-- A header that was resolved for a configured one. -/
structure ResolvedFrom (resolver : SecretResolver) (configured header : HttpHeader) : Prop where
  name : header.name = configured.name
  value : resolveSecretTemplate configured.value resolver = .ok header.value
  accepted : header.Accepted

/-- What the header loop keeps over the configured headers it has met. -/
structure HeaderResolution.Sound (resolver : SecretResolver) (configured : List HttpHeader)
    (resolution : HeaderResolution) : Prop where
  each : List.Forall₂ (ResolvedFrom resolver) configured resolution.headers
  names : resolution.names = (resolution.headers.map fun header => asciiLower header.name).reverse
  distinct : (resolution.headers.map fun header => asciiLower header.name).Nodup
  headerBytes : resolution.headerBytes = headersSize resolution.headers

/-- A header that is resolved keeps the resolution sound. -/
theorem HeaderResolution.Sound.step {configured : List HttpHeader} {header : HttpHeader}
    {resolution next : HeaderResolution} (sound : resolution.Sound resolver configured)
    (kept : resolution.step resolver header = .ok next) :
    next.Sound resolver (configured ++ [header]) := by
  obtain ⟨right, kept⟩ := refuseIf_bind_eq_ok.mp kept
  rw [not_or, not_or] at right
  obtain ⟨name, free, fresh⟩ := right
  split at kept
  · cases kept
  next value resolved =>
    obtain ⟨valid, kept⟩ := refuseIf_bind_eq_ok.mp kept
    cases kept
    have hname : validHeaderName header.name = true := by simpa using name
    have hvalue : validHeaderValue value = true := by simpa using valid
    have hfree : transportOwnsHeader (asciiLower header.name) = false := by simpa using free
    have accepted : HttpHeader.Accepted { name := header.name, value } := ⟨hname, hvalue, hfree⟩
    refine ⟨?_, ?_, ?_, ?_⟩
    · exact List.rel_append sound.each (.cons ⟨rfl, resolved, accepted⟩ .nil)
    · rw [HeaderResolution.keep, List.map_append, List.reverse_append, sound.names]
      rfl
    · rw [HeaderResolution.keep, List.map_append, List.nodup_append]
      refine ⟨sound.distinct, List.nodup_singleton _, ?_⟩
      intro met member other last same
      rw [sound.names, List.mem_reverse] at fresh
      rw [List.map_singleton, List.mem_singleton] at last
      exact fresh (last ▸ same ▸ member)
    · rw [HeaderResolution.keep, headersSize_append, sound.headerBytes]

/-- So do all headers, one after the other. -/
theorem HeaderResolution.Sound.foldlM {headers configured : List HttpHeader}
    {resolution result : HeaderResolution} (sound : resolution.Sound resolver configured)
    (ends : headers.foldlM (HeaderResolution.step resolver) resolution = .ok result) :
    result.Sound resolver (configured ++ headers) := by
  induction headers generalizing configured resolution with
  | nil =>
      cases ends
      rwa [List.append_nil]
  | cons header headers ih =>
      rw [List.foldlM_cons] at ends
      obtain ⟨next, kept, ends⟩ := Outcome.bind_eq_ok.mp ends
      have later := ih (sound.step kept) ends
      rwa [List.append_assoc] at later

/-- A runner that is created has the headers of a loop that ended in its limit. -/
theorem headers_of_createHttpMonitorRunner {build : HostBuild} {config : HttpMonitorConfig}
    {runner : MonitorRunner} (created : createHttpMonitorRunner build config resolver = .ok runner) :
    ∃ (resolution : HeaderResolution) (url : ParsedHttpUrl),
      resolution.Sound resolver config.headers ∧
      resolution.headerBytes ≤ maximumHeadersBytes ∧
      runner = .http { config with headers := resolution.headers } url := by
  unfold createHttpMonitorRunner at created
  split at created
  · cases created
  next url _ =>
    obtain ⟨_, created⟩ := refuseIf_bind_eq_ok.mp created
    obtain ⟨_, created⟩ := refuseIf_bind_eq_ok.mp created
    obtain ⟨_, created⟩ := refuseIf_bind_eq_ok.mp created
    obtain ⟨_, created⟩ := refuseIf_bind_eq_ok.mp created
    obtain ⟨_, created⟩ := refuseIf_bind_eq_ok.mp created
    obtain ⟨resolution, ends, created⟩ := Outcome.bind_eq_ok.mp created
    obtain ⟨size, created⟩ := refuseIf_bind_eq_ok.mp created
    obtain ⟨_, created⟩ := refuseIf_bind_eq_ok.mp created
    obtain ⟨_, created⟩ := refuseIf_bind_eq_ok.mp created
    obtain ⟨_, created⟩ := refuseIf_bind_eq_ok.mp created
    obtain ⟨_, created⟩ := refuseIf_bind_eq_ok.mp created
    have start : ({} : HeaderResolution).Sound resolver [] := ⟨.nil, rfl, List.nodup_nil, rfl⟩
    exact ⟨resolution, url, start.foldlM ends, Nat.le_of_not_lt size, (Except.ok.inj created).symm⟩

/-! ## Templates and headers -/

/-- The loader accepts a template exactly when a resolver of all valid names
resolves it. -/
theorem validSecretTemplate_iff_resolved {value : Bytes} :
    validSecretTemplate value = true ↔ ∀ resolve : Bytes → Option Bytes,
      (∀ name, validSecretName name = true → (resolve name).isSome = true) →
        ∃ resolved, resolveSecretTemplate value (some resolve) = .ok resolved := by
  rw [validSecretTemplate, validSecretReferences_iff (Nat.le_refl _)]
  refine ⟨?_, ?_⟩
  · rintro ⟨references, tail, reads, valid⟩ resolve knows
    have known : references.map (fun reference => lookUp (some resolve) reference.2) =
        (references.map fun reference => (resolve reference.2).getD []).map some := by
      rw [List.map_map]
      apply List.map_congr_left
      intro reference member
      obtain ⟨secret, answer⟩ := Option.isSome_iff_exists.mp (knows _ (valid reference member))
      show resolve reference.2 = some ((resolve reference.2).getD [])
      rw [answer, Option.getD_some]
    exact ⟨_, (resolveReferences_iff (Nat.le_refl _)).mpr ⟨_, _, _, ⟨reads, valid, known⟩, rfl⟩⟩
  · intro resolves
    obtain ⟨resolved, ends⟩ := resolves (fun _ => some []) fun _ _ => rfl
    obtain ⟨references, _, tail, reading, _⟩ := (resolveReferences_iff (Nat.le_refl _)).mp ends
    exact ⟨references, tail, reading.reads, reading.valid⟩

/-- Every header of the loop is accepted. -/
theorem HeaderResolution.Sound.accepted {resolution : HeaderResolution}
    {configured : List HttpHeader} (sound : resolution.Sound resolver configured) :
    ∀ header ∈ resolution.headers, header.Accepted := by
  intro header member
  obtain ⟨index, inside, rfl⟩ := List.getElem_of_mem member
  have each := List.forall₂_iff_get.mp sound.each
  exact (each.2 index (each.1 ▸ inside) inside).accepted

/-- The value of an accepted header is short and has no control characters. -/
theorem value_of_accepted {header : HttpHeader} (accepted : header.Accepted) :
    header.value.length ≤ 2048 ∧ ∀ byte ∈ header.value, 0x20 ≤ byte ∧ byte ≠ 0x7F := by
  have value := accepted.value
  simp only [validHttpHeaderValue, isHeaderValue, Bool.and_eq_true, Bool.not_eq_true',
    decide_eq_false_iff_not, List.all_eq_true, decide_eq_true_eq] at value
  exact ⟨Nat.le_of_not_lt value.1, value.2⟩

/-- The name of an accepted header is none that the transport writes. -/
theorem name_free_of_accepted {header : HttpHeader} (accepted : header.Accepted) :
    asciiLower header.name ∉
      [bytes "host", bytes "content-length", bytes "transfer-encoding", bytes "connection"] := by
  have free := accepted.free
  simp only [transportOwnsHttpHeader, transportOwnsHeader, Bool.or_eq_false_iff,
    decide_eq_false_iff_not] at free
  simp only [List.mem_cons, List.not_mem_nil, or_false, not_or]
  exact ⟨free.1.1.1, free.1.1.2, free.1.2, free.2⟩

/-- Both scanners accept one language; a resolved value is the template with a
secret in the place of each reference, whatever the secrets contain; and the
headers of a created runner obey every limit after their secrets are in place. -/
theorem secretHeaders_contract :
    (∀ value, validSecretTemplate value = true ↔ ∀ resolve : Bytes → Option Bytes,
      (∀ name, validSecretName name = true → (resolve name).isSome = true) →
        ∃ resolved, resolveSecretTemplate value (some resolve) = .ok resolved) ∧
    (∀ value resolver resolved, resolveSecretTemplate value resolver = .ok resolved →
      ∃ references secrets tail, Resolves resolver value references secrets tail ∧
        resolved = substituted references secrets tail ∧
        ∀ references' tail', Template value references' tail' →
          references' = references ∧ tail' = tail) ∧
    ∀ build config resolver runner,
      createHttpMonitorRunner build config resolver = .ok runner →
        ∃ (headers : List HttpHeader) (url : ParsedHttpUrl),
          runner = .http { config with headers } url ∧
          List.Forall₂ (fun configured header : HttpHeader => header.name = configured.name ∧
            resolveSecretTemplate configured.value resolver = .ok header.value)
            config.headers headers ∧
          (∀ header ∈ headers, header.value.length ≤ 2048 ∧
            ∀ byte ∈ header.value, 0x20 ≤ byte ∧ byte ≠ 0x7F) ∧
          (headers.map fun header => header.name.length + header.value.length).sum ≤ 8192 ∧
          (headers.map fun header => asciiLower header.name).Nodup ∧
          ∀ header ∈ headers, asciiLower header.name ∉
            [bytes "host", bytes "content-length", bytes "transfer-encoding", bytes "connection"] := by
  refine ⟨?_, ?_, ?_⟩
  · exact fun value => validSecretTemplate_iff_resolved
  · intro value resolver resolved ends
    obtain ⟨references, secrets, tail, reading, same⟩ :=
      (resolveReferences_iff (Nat.le_refl _)).mp ends
    exact ⟨references, secrets, tail, reading, same, fun _ _ other => other.unique reading.reads⟩
  · intro build config resolver runner created
    obtain ⟨resolution, url, sound, size, rfl⟩ := headers_of_createHttpMonitorRunner created
    refine ⟨resolution.headers, url, rfl, ?_, ?_, ?_, sound.distinct, ?_⟩
    · exact sound.each.imp fun _ _ resolved => ⟨resolved.name, resolved.value⟩
    · exact fun header member => value_of_accepted (sound.accepted header member)
    · rw [sound.headerBytes] at size
      exact size
    · exact fun header member => name_free_of_accepted (sound.accepted header member)

/-- A secret that looks like a reference is sent as it is. -/
example : resolveSecretTemplate (bytes "Bearer $\x7bsecret:a\x7d")
    (some fun _ => some (bytes "$\x7bsecret:a\x7d")) =
      .ok (bytes "Bearer $\x7bsecret:a\x7d") := by decide +kernel

end Host

end PixelStatus
